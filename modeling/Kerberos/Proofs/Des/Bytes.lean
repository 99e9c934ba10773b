import Kerberos.Des.Block
import Kerberos.Proofs.Digest.Chunks

/-!
# Blocks of a byte string

A byte string of whole blocks is the same as a list of blocks.
-/

namespace Kerberos
namespace Des

/-- The blocks of a byte string. Bytes that do not fill a block are left out. -/
def blocksOf (bytes : List UInt8) : List Block :=
  (Digest.chunks blockSize bytes).map ofBytes

/-- The bytes of some blocks. -/
def bytesOf (blocks : List Block) : List UInt8 :=
  blocks.flatMap toBytes

theorem bytesOf_nil : bytesOf [] = [] :=
  rfl

theorem bytesOf_cons (block : Block) (rest : List Block) :
    bytesOf (block :: rest) = toBytes block ++ bytesOf rest :=
  rfl

theorem bytesOf_append (blocks rest : List Block) :
    bytesOf (blocks ++ rest) = bytesOf blocks ++ bytesOf rest :=
  List.flatMap_append

theorem length_bytesOf (blocks : List Block) :
    (bytesOf blocks).length = blockSize * blocks.length := by
  induction blocks with
  | nil => rfl
  | cons block rest ih =>
    calc
      (bytesOf (block :: rest)).length = blockSize + (bytesOf rest).length := by
            rw [bytesOf_cons, List.length_append, length_toBytes]
      _ = blockSize + blockSize * rest.length := by rw [ih]
      _ = blockSize * (block :: rest).length := by
            rw [List.length_cons, Nat.mul_succ, Nat.add_comm]

theorem blocksOf_append {part : List UInt8} (h : part.length = blockSize) (rest : List UInt8) :
    blocksOf (part ++ rest) = ofBytes part :: blocksOf rest := by
  rw [blocksOf, Digest.chunks_append (by decide) h, List.map_cons, blocksOf]

/-- The blocks of the bytes of some blocks are these blocks. -/
theorem blocksOf_bytesOf (blocks : List Block) : blocksOf (bytesOf blocks) = blocks := by
  induction blocks with
  | nil => simp [bytesOf_nil, blocksOf, Digest.chunks_nil]
  | cons block rest ih =>
    rw [bytesOf_cons, blocksOf_append (length_toBytes block), ofBytes_toBytes, ih]

/-- Blocks in front of a byte string are its first blocks. -/
theorem blocksOf_bytesOf_append (blocks : List Block) (rest : List UInt8) :
    blocksOf (bytesOf blocks ++ rest) = blocks ++ blocksOf rest := by
  induction blocks with
  | nil => rfl
  | cons block blocks ih =>
    rw [bytesOf_cons, List.append_assoc, blocksOf_append (length_toBytes block), ofBytes_toBytes,
      ih, List.cons_append]

/-- A byte string of whole blocks is made of the bytes of its blocks. -/
theorem bytesOf_blocksOf {bytes : List UInt8} (h : bytes.length % blockSize = 0) :
    bytesOf (blocksOf bytes) = bytes := by
  induction bytes using Digest.chunkInduction (by decide : 0 < blockSize) with
  | hshort bytes hlt =>
    have hnil : bytes = [] := by
      rw [← List.length_eq_zero_iff, ← Nat.mod_eq_of_lt hlt, h]
    rw [hnil, blocksOf, Digest.chunks_nil, List.map_nil, bytesOf_nil]
  | hpart part rest hpart ih =>
    have hrest : rest.length % blockSize = 0 := by
      rwa [List.length_append, hpart, Nat.add_mod_left] at h
    rw [blocksOf_append hpart, bytesOf_cons, toBytes_ofBytes hpart, ih hrest]

/-- The blocks of a byte string behind whole blocks start where these end. -/
theorem blocksOf_append_of_whole {bytes : List UInt8} (h : bytes.length % blockSize = 0)
    (more : List UInt8) : blocksOf (bytes ++ more) = blocksOf bytes ++ blocksOf more := by
  rw [← blocksOf_bytesOf_append, bytesOf_blocksOf h]

theorem ofBytes_injective_of_length {part part' : List UInt8} (h : part.length = blockSize)
    (h' : part'.length = blockSize) (hsame : ofBytes part' = ofBytes part) : part' = part := by
  rw [← toBytes_ofBytes h', hsame, toBytes_ofBytes h]

/-- Byte strings that differ within one block only differ in this block only. -/
theorem exists_blocks_of_one_block {bytes bytes' : List UInt8} {i : Nat}
    (hwhole : bytes.length % blockSize = 0) (hlength : bytes'.length = bytes.length)
    (hne : bytes' ≠ bytes) (hblock : ∀ j, bytes'[j]? ≠ bytes[j]? → j / blockSize = i) :
    ∃ (before : List Block) (block block' : Block) (rest : List Block),
      blocksOf bytes = before ++ block :: rest ∧ blocksOf bytes' = before ++ block' :: rest ∧
      block' ≠ block := by
  rcases Digest.exists_split_of_one_chunk (by decide) hwhole hlength hne hblock with
    ⟨before, part, part', rest, hbytes, hbytes', hbefore, hpart, hpart', hparts⟩
  have hbeforeWhole : before.length % blockSize = 0 := by
    rw [hbefore]
    exact Nat.mul_mod_right _ _
  refine ⟨blocksOf before, ofBytes part, ofBytes part', blocksOf rest, ?_, ?_, ?_⟩
  · rw [hbytes, blocksOf_append_of_whole hbeforeWhole, blocksOf_append hpart]
  · rw [hbytes', blocksOf_append_of_whole hbeforeWhole, blocksOf_append hpart']
  · intro hsame
    exact hparts (ofBytes_injective_of_length hpart hpart' hsame)

/-- The last block of a byte string of whole blocks, or `first` if there is none. -/
def lastBlock (first bytes : List UInt8) : List UInt8 :=
  if bytes.isEmpty then first else bytes.drop (bytes.length - blockSize)

theorem lastBlock_of_ne_nil {bytes : List UInt8} (h : bytes ≠ []) (first : List UInt8) :
    lastBlock first bytes = bytes.drop (bytes.length - blockSize) := by
  rw [lastBlock, if_neg]
  intro hempty
  exact h (List.isEmpty_iff.1 hempty)

/-- A string of whole blocks that is not empty has a whole block at its end. -/
theorem blockSize_le_length {bytes : List UInt8} (hbytes : bytes.length % blockSize = 0)
    (h : bytes ≠ []) : blockSize ≤ bytes.length :=
  Nat.le_of_dvd (List.length_pos_iff.2 h) (Nat.dvd_of_mod_eq_zero hbytes)

theorem length_lastBlock {first bytes : List UInt8} (hfirst : first.length = blockSize)
    (hbytes : bytes.length % blockSize = 0) : (lastBlock first bytes).length = blockSize := by
  by_cases hempty : bytes = []
  · rw [hempty]
    exact hfirst
  · rw [lastBlock_of_ne_nil hempty, List.length_drop,
      Nat.sub_sub_self (blockSize_le_length hbytes hempty)]

/-- The last block of two byte strings is that of the second one, if it has a block. -/
theorem lastBlock_append (first bytes : List UInt8) {more : List UInt8}
    (hmore : more.length % blockSize = 0) :
    lastBlock first (bytes ++ more) = lastBlock (lastBlock first bytes) more := by
  by_cases hempty : more = []
  · rw [hempty, List.append_nil]
    rfl
  · have hle : blockSize ≤ more.length := blockSize_le_length hmore hempty
    have hboth : bytes ++ more ≠ [] := by
      intro hnil
      exact hempty (List.append_eq_nil_iff.1 hnil).2
    rw [lastBlock_of_ne_nil hboth, lastBlock_of_ne_nil hempty, List.length_append,
      Nat.add_sub_assoc hle, List.drop_length_add_append]

theorem lastBlock_bytesOf {first : List UInt8} (h : first.length = blockSize)
    (blocks : List Block) :
    lastBlock first (bytesOf blocks) = toBytes (blocks.getLastD (ofBytes first)) := by
  rcases List.eq_nil_or_concat blocks with rfl | ⟨before, last, rfl⟩
  · exact (toBytes_ofBytes h).symm
  · have hsplit : bytesOf (before ++ [last]) = bytesOf before ++ toBytes last := by
      simp [bytesOf]
    have hnonempty : (bytesOf before ++ toBytes last).isEmpty = false := by
      simp [toBytes]
    have hlength :
        (bytesOf before ++ toBytes last).length - blockSize = (bytesOf before).length := by
      rw [List.length_append, length_toBytes, Nat.add_sub_cancel]
    rw [List.concat_eq_append, hsplit, lastBlock, hnonempty, if_neg Bool.false_ne_true, hlength,
      List.drop_left, List.getLastD_concat]

end Des
end Kerberos
