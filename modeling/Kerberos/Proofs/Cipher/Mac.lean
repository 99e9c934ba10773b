import Kerberos.Proofs.Cipher.DesCbc

/-!
# Authentication codes by chaining

The code of a message is the last block of its encryption, although the message is only read:
`des_cbcMac_eq_last_block`. So the key, the chaining value and the data determine it
(`des_cbcMac_determined_by_data`), and it changes with every single block of the data
(`des_cbcMac_detects_block_change`). A message without data has no code, and a call for it leaves
its output alone.
-/

namespace Kerberos
namespace DesCbc

open Des (Block blockSize blocksOf bytesOf)

/-! ## The code of a byte string -/

/-- The textbook authentication code of a byte string of whole blocks. -/
def tag (key : Key) (iv bytes : List UInt8) : List UInt8 :=
  Des.toBytes (Chaining.mac (Des.encryptBlock (Des.ofBytes key.bytes)) (Des.ofBytes iv)
    (blocksOf bytes))

theorem length_tag (key : Key) (iv bytes : List UInt8) : (tag key iv bytes).length = blockSize :=
  Des.length_toBytes _

theorem tag_eq_lastBlock (key : Key) {iv : List UInt8} (hiv : iv.length = blockSize)
    (bytes : List UInt8) : tag key iv bytes = Des.lastBlock iv (chained .encrypt key iv bytes) := by
  rw [tag, Chaining.mac_eq_getLastD]
  exact (Des.lastBlock_bytesOf hiv _).symm

/-- A change within one block of a byte string changes its code. -/
theorem tag_ne_of_one_block (key : Key) (iv : List UInt8) {bytes bytes' : List UInt8} {i : Nat}
    (hwhole : bytes.length % blockSize = 0) (hlength : bytes'.length = bytes.length)
    (hne : bytes' ≠ bytes) (hblock : ∀ j, bytes'[j]? ≠ bytes[j]? → j / blockSize = i) :
    tag key iv bytes' ≠ tag key iv bytes := by
  rcases Des.exists_blocks_of_one_block hwhole hlength hne hblock with
    ⟨before, block, block', rest, hbytes, hbytes', hblocks⟩
  have hinjective : Function.Injective (Des.encryptBlock (Des.ofBytes key.bytes)) :=
    Function.LeftInverse.injective (Des.decryptBlock_encryptBlock _)
  intro hsame
  -- the codes as blocks, since chaining is about blocks
  apply Chaining.mac_ne_of_block_ne hinjective hblocks (Des.ofBytes iv) before rest
  rw [← hbytes, ← hbytes', ← Des.ofBytes_toBytes (Chaining.mac _ _ (blocksOf bytes'))]
  exact (congrArg Des.ofBytes hsame).trans (Des.ofBytes_toBytes _)

/-! ## The walk that only reads -/

section Reading

variable {m : Message} {c : Cursor} {done : List UInt8}

/-- With a block left, a read behind the part that is done finds this block and ends behind it. -/
theorem readBlock_block {block : Block} {rest : List Block} (hrests : c.RestsIn m)
    (hposition : c.position m = done.length)
    (hdata : m.dataBytes = done ++ bytesOf (block :: rest)) :
    ∃ c' : Cursor, c'.RestsIn m ∧ c'.position m = (done ++ Des.toBytes block).length ∧
      m.dataBytes = (done ++ Des.toBytes block) ++ bytesOf rest ∧
      m.readBlock c emptyBlock = some ⟨true, Des.toBytes block, c'⟩ := by
  -- a walk both of whose cursors stand where the read is made
  have hat : Walk.At m done.length ⟨m, c, c, emptyBlock, 0⟩ :=
    ⟨rfl, hrests, hposition, hrests, hposition, rfl⟩
  rcases hat.readBlock_full hdata with ⟨c', hrests', hposition', hread⟩
  refine ⟨c', hrests', ?_, ?_, hread⟩
  · rw [List.length_append, Des.length_toBytes]
    exact hposition'
  · rw [hdata, Des.bytesOf_cons, List.append_assoc]

/-- The chaining value passes through all blocks that are left. -/
theorem macRun_eq (cipher : Block → Block) {blocks : List Block} (hrests : c.RestsIn m)
    (hposition : c.position m = done.length) (hdata : m.dataBytes = done ++ bytesOf blocks)
    (chain : Block) : macRun cipher m blocks.length c chain = Chaining.mac cipher chain blocks := by
  -- induction on the blocks left, with the block that is read moved to the part that is done
  induction blocks generalizing done c chain with
  | nil => rfl
  | cons block rest ih =>
    rcases readBlock_block hrests hposition hdata with
      ⟨c', hrests', hposition', hdata', hread⟩
    have hrest := ih hrests' hposition' hdata' (cipher (block ^^^ chain))
    simp only [List.length_cons, macRun, hread, if_true, Des.ofBytes_toBytes, hrest]
    rfl

end Reading

/-! ## Whole calls -/

section Calls

variable {key : Key} {iv : Option (List UInt8)} {m : Message} {output : List UInt8}

namespace Accepted

theorem mac_of_no_data (h : Accepted key iv m) (hzero : m.dataLength = 0) (output : List UInt8) :
    mac key m iv output = ⟨.ok (), output⟩ := by
  simp [mac, h.accept_eq, hzero]

theorem toBytes_macRun (h : Accepted key iv m) :
    Des.toBytes (macRun (Des.encryptBlock (Des.ofBytes key.bytes)) m (blockCount m) {}
      (startBlock iv)) = tag key (iv.getD emptyBlock) m.dataBytes := by
  have hdata : m.dataBytes = [] ++ bytesOf (blocksOf m.dataBytes) :=
    (bytesOf_blocksOf_dataBytes h.whole_blocks).symm
  rw [← length_blocksOf_dataBytes h.whole_blocks,
    macRun_eq _ (.inl rfl) (Cursor.position_start m) hdata, startBlock_eq, tag]

theorem mac_of_data (h : Accepted key iv m) (hpos : m.dataLength ≠ 0)
    (hout : output.length = blockSize) :
    mac key m iv output = ⟨.ok (), tag key (iv.getD emptyBlock) m.dataBytes⟩ := by
  rw [← h.toBytes_macRun]
  simp [mac, h.accept_eq, hpos, hout, Des.encryptBlock]

theorem dataBytes_encrypt_ne_nil (h : Accepted key iv m) (hpos : m.dataLength ≠ 0) :
    (transform .encrypt key (iv.map .iv) m).message.dataBytes ≠ [] := by
  intro hnil
  apply hpos
  rw [← h.dataLength_transform .encrypt, ← Message.length_dataBytes, hnil, List.length_nil]

/-- With data in a message, encryption ends with its code. -/
theorem lastBlock_encrypt (h : Accepted key iv m) (hpos : m.dataLength ≠ 0)
    (first : List UInt8) :
    Des.lastBlock first (transform .encrypt key (iv.map .iv) m).message.dataBytes =
      tag key (iv.getD emptyBlock) m.dataBytes := by
  have hsent := h.dataBytes_encrypt_ne_nil hpos
  rw [tag_eq_lastBlock key h.length_getD_emptyBlock, ← h.dataBytes_transform .encrypt,
    Des.lastBlock_of_ne_nil hsent, Des.lastBlock_of_ne_nil hsent]

theorem state_encrypt (h : Accepted key iv m) (hpos : m.dataLength ≠ 0) :
    (transform .encrypt key (iv.map .iv) m).state =
      iv.map fun _ => .iv (tag key (iv.getD emptyBlock) m.dataBytes) := by
  rw [h.state_transform .encrypt]
  simp only [ciphertext, h.lastBlock_encrypt hpos]

/-- Zeros may as well be given as the chaining value. -/
theorem with_chain (h : Accepted key iv m) : Accepted key (some (iv.getD emptyBlock)) m := by
  refine ⟨h.length_key, ?_, h.whole_blocks⟩
  rintro chain ⟨⟩
  exact h.length_getD_emptyBlock

end Accepted

/-- With data in the message, a call succeeds only with an output of one block. -/
theorem accepted_of_mac (hanswer : (mac key m iv output).answer = .ok ()) :
    Accepted key iv m ∧ (m.dataLength ≠ 0 → output.length = blockSize) := by
  cases haccept : info.accept key iv m with
  | error e => simp [mac, haccept] at hanswer
  | ok hasData =>
    have haccepted : Accepted key iv m := .of_accept haccept
    refine ⟨haccepted, ?_⟩
    intro hpos
    apply Decidable.byContradiction
    intro hout
    simp [mac, haccepted.accept_eq, hpos, hout] at hanswer

theorem dataLength_eq_zero (h : m.dataBytes = []) : m.dataLength = 0 := by
  rw [← Message.length_dataBytes, h, List.length_nil]

theorem dataLength_ne_zero (h : m.dataBytes ≠ []) : m.dataLength ≠ 0 := by
  intro hzero
  exact h (dataBytes_eq_nil hzero)

end Calls

/-! ## The code and the encryption of a message -/

/-- With data in a message, its code is the last block that encryption from the same chaining value
makes of it, and the chaining value that encryption leaves. Without data the call succeeds as well,
and its output stays as it is. The message is only read, however it is cut into segments. -/
theorem des_cbcMac_eq_last_block (key : Key) (iv : Option (List UInt8)) (m : Message)
    (output : List UInt8) (hkey : key.length = 8) (hiv : ∀ b ∈ iv, b.length = 8)
    (hm : m.dataBytes.length % 8 = 0) :
    let code := Provider.des.cbcMac key m iv output
    let sent := Provider.des.encrypt key (iv.map .iv) m
    let chain := iv.getD (List.replicate 8 0)
    (m.dataBytes ≠ [] → output.length = 8 →
      code.answer = .ok () ∧ code.after.length = 8 ∧ sent.answer = .ok () ∧
        code.after = sent.message.dataBytes.drop (sent.message.dataBytes.length - 8) ∧
        sent.state = iv.map (fun _ => .iv code.after) ∧
        (Provider.des.encrypt key (some (.iv chain)) m).state = some (.iv code.after)) ∧
      (m.dataBytes = [] → code = ⟨.ok (), output⟩) := by
  intro code sent chain
  have h : Accepted key iv m := .of_lengths hkey hiv hm
  constructor
  · intro hdata hout
    have hpos : m.dataLength ≠ 0 := dataLength_ne_zero hdata
    have hcode : code = ⟨.ok (), tag key chain m.dataBytes⟩ := h.mac_of_data hpos hout
    have hlast : Des.lastBlock chain sent.message.dataBytes = tag key chain m.dataBytes :=
      h.lastBlock_encrypt hpos chain
    rw [hcode]
    refine ⟨rfl, length_tag key chain _, h.answer_transform .encrypt, ?_, h.state_encrypt hpos,
      h.with_chain.state_encrypt hpos⟩
    exact hlast.symm.trans (Des.lastBlock_of_ne_nil (h.dataBytes_encrypt_ne_nil hpos) chain)
  · intro hnone
    exact h.mac_of_no_data (dataLength_eq_zero hnone) output

/-- Two blocks in pieces, of which one is empty and one is not encrypted. -/
theorem des_cbcMac_eq_last_block_scattered :
    let key : Key := ⟨.desCbcCrc, [0x13, 0x34, 0x57, 0x79, 0x9B, 0xBC, 0xDF, 0xF1]⟩
    let iv : Option (List UInt8) := some [1, 2, 3, 4, 5, 6, 7, 8]
    let m : Message := [⟨.data, [10, 11, 12]⟩, ⟨.signOnly, [99, 98]⟩, ⟨.data, []⟩,
      ⟨.data, [13, 14, 15, 16, 17, 18, 19, 20, 21, 22, 23, 24, 25]⟩]
    let output : List UInt8 := List.replicate 8 0xEE
    key.length = 8 ∧ (∀ b ∈ iv, b.length = 8) ∧ m.dataBytes.length % 8 = 0 ∧
      (Provider.des.cbcMac key m iv output).after = [87, 178, 192, 206, 32, 178, 252, 64] ∧
      (Provider.des.encrypt key (iv.map .iv) m).state =
        some (.iv [87, 178, 192, 206, 32, 178, 252, 64]) := by
  intro key iv m output
  have hkey : key.length = 8 := by decide
  have hiv : ∀ b ∈ iv, b.length = 8 := by decide
  have hm : m.dataBytes.length % 8 = 0 := by decide
  have hdata : m.dataBytes ≠ [] := by decide
  have hout : output.length = 8 := by decide
  rcases (des_cbcMac_eq_last_block key iv m output hkey hiv hm).1 hdata hout with
    ⟨-, -, -, hlast, hstate, -⟩
  have hcode : (Provider.des.cbcMac key m iv output).after =
      [87, 178, 192, 206, 32, 178, 252, 64] := by
    rw [hlast]
    decide +kernel
  refine ⟨hkey, hiv, hm, hcode, ?_⟩
  rw [hstate, hcode]
  rfl

/-! ## Changes of the data -/

/-- A message whose data differs from that of another one within a single block, and is as long,
has another code, however the two are cut into segments. -/
theorem des_cbcMac_detects_block_change (key : Key) (iv : Option (List UInt8)) (m m' : Message)
    (i : Nat) (output output' : List UInt8) (hkey : key.length = 8)
    (hiv : ∀ b ∈ iv, b.length = 8) (hm : m.dataBytes.length % 8 = 0)
    (hlength : m'.dataBytes.length = m.dataBytes.length) (hne : m'.dataBytes ≠ m.dataBytes)
    (hblock : ∀ j, m'.dataBytes[j]? ≠ m.dataBytes[j]? → j / 8 = i) (hout : output.length = 8)
    (hout' : output'.length = 8) :
    let code := Provider.des.cbcMac key m iv output
    let code' := Provider.des.cbcMac key m' iv output'
    code.answer = .ok () ∧ code'.answer = .ok () ∧ code'.after ≠ code.after := by
  intro code code'
  have hsame : m'.dataLength = m.dataLength := by
    simpa only [Message.length_dataBytes] using hlength
  have h : Accepted key iv m := .of_lengths hkey hiv hm
  have h' : Accepted key iv m' := .of_lengths hkey hiv (hlength ▸ hm)
  -- byte strings of no bytes do not differ
  have hpos : m.dataLength ≠ 0 := by
    intro hzero
    apply hne
    rw [dataBytes_eq_nil hzero, dataBytes_eq_nil (hsame.trans hzero)]
  have hpos' : m'.dataLength ≠ 0 := by
    rw [hsame]
    exact hpos
  have hcode : code = ⟨.ok (), tag key (iv.getD emptyBlock) m.dataBytes⟩ :=
    h.mac_of_data hpos hout
  have hcode' : code' = ⟨.ok (), tag key (iv.getD emptyBlock) m'.dataBytes⟩ :=
    h'.mac_of_data hpos' hout'
  rw [hcode, hcode']
  exact ⟨rfl, rfl, tag_ne_of_one_block key _ hm hlength hne hblock⟩

/-- Three bytes of the first of two blocks are changed, and the pieces are others. -/
theorem des_cbcMac_detects_block_change_recut :
    let key : Key := ⟨.desCbcCrc, [0x13, 0x34, 0x57, 0x79, 0x9B, 0xBC, 0xDF, 0xF1]⟩
    let iv : Option (List UInt8) := some [1, 2, 3, 4, 5, 6, 7, 8]
    let m : Message := [⟨.data, [10, 11, 12]⟩, ⟨.signOnly, [99, 98]⟩,
      ⟨.data, [13, 14, 15, 16, 17, 18, 19, 20, 21, 22, 23, 24, 25]⟩]
    let m' : Message := [⟨.data, [10, 11, 12, 0, 14, 15, 1, 2, 18]⟩, ⟨.data, []⟩,
      ⟨.data, [19, 20, 21, 22, 23, 24, 25]⟩]
    let output : List UInt8 := List.replicate 8 0xEE
    key.length = 8 ∧ (∀ b ∈ iv, b.length = 8) ∧ m.dataBytes.length % 8 = 0 ∧
      m'.dataBytes.length = m.dataBytes.length ∧ m'.dataBytes ≠ m.dataBytes ∧
      (∀ j, m'.dataBytes[j]? ≠ m.dataBytes[j]? → j / 8 = 0) ∧ output.length = 8 ∧
      (Provider.des.cbcMac key m' iv output).after ≠
        (Provider.des.cbcMac key m iv output).after := by
  intro key iv m m' output
  have hkey : key.length = 8 := by decide
  have hiv : ∀ b ∈ iv, b.length = 8 := by decide
  have hm : m.dataBytes.length % 8 = 0 := by decide
  have hlength : m'.dataBytes.length = m.dataBytes.length := by decide
  have hne : m'.dataBytes ≠ m.dataBytes := by decide
  have hinside : ∀ j < 16, m'.dataBytes[j]? ≠ m.dataBytes[j]? → j / 8 = 0 := by decide
  have hblock : ∀ j, m'.dataBytes[j]? ≠ m.dataBytes[j]? → j / 8 = 0 := by
    intro j hj
    by_cases hlt : j < 16
    · exact hinside j hlt hj
    · have hend : m.dataBytes.length ≤ j := Nat.le_of_not_lt hlt
      exact absurd (by rw [List.getElem?_eq_none hend, List.getElem?_eq_none (hlength ▸ hend)]) hj
  have hout : output.length = 8 := by decide
  rcases des_cbcMac_detects_block_change key iv m m' 0 output output hkey hiv hm hlength hne hblock
    hout hout with ⟨-, -, hdiffers⟩
  exact ⟨hkey, hiv, hm, hlength, hne, hblock, hout, hdiffers⟩

/-! ## What determines the code -/

/-- A call that succeeds on a message with data has an output of one block and leaves the code of
the data in it. So calls that succeed with the same key, chaining value and data leave the same
bytes, whatever was in their outputs. Without data there is no code, and an output of one block
keeps its bytes. -/
theorem des_cbcMac_determined_by_data (key : Key) (iv : Option (List UInt8)) (m : Message)
    (output : List UInt8) (hanswer : (Provider.des.cbcMac key m iv output).answer = .ok ()) :
    let code := Provider.des.cbcMac key m iv output
    (m.dataBytes ≠ [] →
      output.length = 8 ∧ code.after.length = 8 ∧
        code.after = tag key (iv.getD (List.replicate 8 0)) m.dataBytes ∧
        ∀ (m' : Message) (output' : List UInt8), m'.dataBytes = m.dataBytes →
          (Provider.des.cbcMac key m' iv output').answer = .ok () →
            (Provider.des.cbcMac key m' iv output').after = code.after) ∧
      (m.dataBytes = [] → output.length = 8 → code.after = output) := by
  intro code
  rcases accepted_of_mac hanswer with ⟨h, hout⟩
  constructor
  · intro hdata
    have hpos : m.dataLength ≠ 0 := dataLength_ne_zero hdata
    have hcode : code = ⟨.ok (), tag key (iv.getD emptyBlock) m.dataBytes⟩ :=
      h.mac_of_data hpos (hout hpos)
    rw [hcode]
    refine ⟨hout hpos, length_tag key _ _, rfl, ?_⟩
    intro m' output' hsame hanswer'
    rcases accepted_of_mac hanswer' with ⟨h', hout'⟩
    have hpos' : m'.dataLength ≠ 0 := dataLength_ne_zero (hsame ▸ hdata)
    have hcode' : Provider.des.cbcMac key m' iv output' = _ := h'.mac_of_data hpos' (hout' hpos')
    rw [hcode', hsame]
  · intro hnone _
    exact congrArg Outcome.after (h.mac_of_no_data (dataLength_eq_zero hnone) output)

/-- One block of data in two pieces, and zeros as the chaining value. -/
theorem des_cbcMac_determined_by_data_scattered :
    let key : Key := ⟨.desCbcCrc, [0x01, 0x23, 0x45, 0x67, 0x89, 0xAB, 0xCD, 0xEF]⟩
    let m : Message := [⟨.data, [0x4E, 0x6F, 0x77]⟩, ⟨.header, [1]⟩,
      ⟨.data, [0x20, 0x69, 0x73, 0x20, 0x74]⟩]
    let output : List UInt8 := List.replicate 8 0xEE
    (Provider.des.cbcMac key m none output).answer = .ok () ∧
      (Provider.des.cbcMac key m none output).after =
        [0x3F, 0xA4, 0x0E, 0x8A, 0x98, 0x4D, 0x48, 0x15] := by
  intro key m output
  have h : Accepted key none m := ⟨by decide, by decide, by decide⟩
  have hanswer : (Provider.des.cbcMac key m none output).answer = .ok () :=
    congrArg Outcome.answer (h.mac_of_data (by decide) (by decide))
  have hdata : m.dataBytes ≠ [] := by decide
  rcases (des_cbcMac_determined_by_data key none m output hanswer).1 hdata with ⟨-, -, hcode, -⟩
  refine ⟨hanswer, ?_⟩
  rw [hcode]
  decide +kernel

/-- Two calls without data succeed and leave the different bytes that they were given, and a third
one succeeds with an output of two blocks. -/
theorem des_cbcMac_succeeds_without_code :
    let key : Key := ⟨.desCbcCrc, [0x01, 0x23, 0x45, 0x67, 0x89, 0xAB, 0xCD, 0xEF]⟩
    let m : Message := [⟨.signOnly, [1, 2, 3]⟩]
    let stale : List UInt8 := List.replicate 8 0xEE
    let blank : List UInt8 := List.replicate 8 0
    (Provider.des.cbcMac key m none stale).answer = .ok () ∧
      (Provider.des.cbcMac key m none blank).answer = .ok () ∧
      (Provider.des.cbcMac key m none stale).after ≠
        (Provider.des.cbcMac key m none blank).after ∧
      (Provider.des.cbcMac key m none (stale ++ stale)).answer = .ok () ∧
      (stale ++ stale).length ≠ 8 := by
  intro key m stale blank
  have h : Accepted key none m := ⟨by decide, by decide, by decide⟩
  have hcall : ∀ output, Provider.des.cbcMac key m none output = ⟨.ok (), output⟩ :=
    fun output => h.mac_of_no_data (by decide) output
  rw [hcall, hcall, hcall]
  exact ⟨rfl, rfl, by decide, rfl, by decide⟩

end DesCbc
end Kerberos
