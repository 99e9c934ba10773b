import Kerberos.Hmac
import Kerberos.Proofs.Digest.Streaming

/-!
# The size that a hash declares and the size that is written

An authentication code is the code of the signed bytes, however they are cut into segments. It has
the size of the digest that the name of the hash selects, while the answer and the checks go by the
size that the hash declares. `authenticate_eq` says what a call does where the two differ, and
`authenticate_writes_digest_size` that callers can rely on the declared size only where they agree.
-/

namespace Kerberos
namespace Hmac

open Digest (Construction Absorber)

/-! ## The code of a message in pieces -/

namespace Mac

variable {σ : Type} (c : Construction σ)

/-- Only the inner digest takes in the message. -/
theorem foldl_update (m : Mac σ) (pieces : List (List UInt8)) :
    pieces.foldl (update c) m = { m with inner := pieces.foldl (Absorber.absorb c) m.inner } := by
  induction pieces generalizing m with
  | nil => rfl
  | cons piece rest ih => exact ih (update c m piece)

theorem ofPieces_eq (key : List UInt8) (pieces : List (List UInt8)) :
    ofPieces c key pieces = code c.hash key pieces.flatten := by
  have hinner : (pieces.foldl (Absorber.absorb c)
      ((Absorber.start c).absorb c (innerKey c.hash key))).finish c =
      c.hash (innerKey c.hash key ++ pieces.flatten) := by
    rw [Absorber.foldl_absorb, Absorber.finish_absorb]
  simp only [ofPieces, foldl_update, start, finish, hinner]
  -- the inner digest is one more piece for the outer one
  rw [← Absorber.absorb_append, Absorber.finish_absorb, code]

end Mac

theorem codeOfPieces_eq (d : Digest) (key : List UInt8) (pieces : List (List UInt8)) :
    codeOfPieces d key pieces = code d.hash key pieces.flatten := by
  cases d with
  | md5 => exact Mac.ofPieces_eq Digest.Md5.construction key pieces
  | sha1 => exact Mac.ofPieces_eq Digest.Sha1.construction key pieces
  | sha256 => exact Mac.ofPieces_eq Digest.Sha256.construction key pieces

theorem length_code (d : Digest) (key message : List UInt8) :
    (code d.hash key message).length = d.size :=
  d.length_hash _

/-- "Hi There" under keys of 0B bytes, and "what do ya want for nothing?" under the key "Jefe". -/
theorem code_known_answers :
    let greeting : List UInt8 := [0x48, 0x69, 0x20, 0x54, 0x68, 0x65, 0x72, 0x65]
    let jefe : List UInt8 := [0x4A, 0x65, 0x66, 0x65]
    let question : List UInt8 :=
      [0x77, 0x68, 0x61, 0x74, 0x20, 0x64, 0x6F, 0x20, 0x79, 0x61, 0x20, 0x77, 0x61, 0x6E, 0x74,
       0x20, 0x66, 0x6F, 0x72, 0x20, 0x6E, 0x6F, 0x74, 0x68, 0x69, 0x6E, 0x67, 0x3F]
    code Digest.md5.hash (List.replicate 16 0x0B) greeting =
        [0x92, 0x94, 0x72, 0x7A, 0x36, 0x38, 0xBB, 0x1C, 0x13, 0xF4, 0x8E, 0xF8, 0x15, 0x8B, 0xFC,
         0x9D] ∧
      code Digest.md5.hash jefe question =
        [0x75, 0x0C, 0x78, 0x3E, 0x6A, 0xB0, 0xB5, 0x03, 0xEA, 0xA8, 0x6E, 0x31, 0x0A, 0x5D, 0xB7,
         0x38] ∧
      code Digest.sha1.hash (List.replicate 20 0x0B) greeting =
        [0xB6, 0x17, 0x31, 0x86, 0x55, 0x05, 0x72, 0x64, 0xE2, 0x8B, 0xC0, 0xB6, 0xFB, 0x37, 0x8C,
         0x8E, 0xF1, 0x46, 0xBE, 0x00] ∧
      code Digest.sha1.hash jefe question =
        [0xEF, 0xFC, 0xDF, 0x6A, 0xE5, 0xEB, 0x2F, 0xA2, 0xD2, 0x74, 0x16, 0xD5, 0xF1, 0x84, 0xDF,
         0x9C, 0x25, 0x9A, 0x7C, 0x79] ∧
      code Digest.sha256.hash (List.replicate 20 0x0B) greeting =
        [0xB0, 0x34, 0x4C, 0x61, 0xD8, 0xDB, 0x38, 0x53, 0x5C, 0xA8, 0xAF, 0xCE, 0xAF, 0x0B, 0xF1,
         0x2B, 0x88, 0x1D, 0xC2, 0x00, 0xC9, 0x83, 0x3D, 0xA7, 0x26, 0xE9, 0x37, 0x6C, 0x2E, 0x32,
         0xCF, 0xF7] := by
  refine ⟨?_, ?_, ?_, ?_, ?_⟩ <;> decide +kernel

/-! ## What a call writes -/

theorem ofInfo_of_name {info : HashInfo} {d : Digest} (h : Digest.ofName? info.name = some d) :
    Digest.ofInfo info = .ok d := by
  rw [Digest.ofInfo, h]

variable {info : HashInfo} {d : Digest} {key : Key} {m : Message} {output : List UInt8}

/-- A call whose checks pass writes as many bytes as the digest has, if there is room for them. -/
theorem authenticate_eq (h : Digest.ofInfo info = .ok d) (hkey : key.length ≤ info.blockSize)
    (hout : info.size ≤ output.length) (m : Message) :
    authenticate info key m output =
      if output.length < d.size then ⟨.error .breakdown, output⟩
      else ⟨.ok info.size, code d.hash key.bytes m.signedBytes ++ output.drop d.size⟩ := by
  simp only [authenticate, if_neg (Nat.not_lt.2 hkey), if_neg (Nat.not_lt.2 hout), h,
    codeOfPieces_eq, length_code, Message.signedBytes]

theorem authenticate_of_room (h : Digest.ofInfo info = .ok d) (hkey : key.length ≤ info.blockSize)
    (hout : info.size ≤ output.length) (hroom : d.size ≤ output.length) (m : Message) :
    authenticate info key m output =
      ⟨.ok info.size, code d.hash key.bytes m.signedBytes ++ output.drop d.size⟩ := by
  rw [authenticate_eq h hkey hout, if_neg (Nat.not_lt.2 hroom)]

/-! ## What the declared size promises -/

/-- What a caller expects of the declared size: a call that passes the checks answers this size, has
written so many bytes, which the key and the signed bytes determine, and no other byte. -/
def WritesDeclaredSize (info : HashInfo) : Prop :=
  ∀ (key : Key) (m m' : Message) (output output' : List UInt8),
    key.length ≤ info.blockSize → info.size ≤ output.length → info.size ≤ output'.length →
      m'.signedBytes = m.signedBytes →
        let t := authenticate info key m output
        let t' := authenticate info key m' output'
        t.answer = .ok info.size ∧ t'.after.take info.size = t.after.take info.size ∧
          t.after.drop info.size = output.drop info.size

theorem writesDeclaredSize_of_eq (h : Digest.ofInfo info = .ok d) (hsize : info.size = d.size) :
    WritesDeclaredSize info := by
  intro key m m' output output' hkey hout hout' hsigned t t'
  have ht : t = ⟨.ok info.size, code d.hash key.bytes m.signedBytes ++ output.drop d.size⟩ :=
    authenticate_of_room h hkey hout (hsize ▸ hout) m
  have ht' : t' = ⟨.ok info.size, code d.hash key.bytes m.signedBytes ++ output'.drop d.size⟩ := by
    rw [← hsigned]
    exact authenticate_of_room h hkey hout' (hsize ▸ hout') m'
  -- the code ends exactly where the declared size does
  have hlength : (code d.hash key.bytes m.signedBytes).length = info.size := by
    rw [length_code, hsize]
  rw [ht, ht']
  refine ⟨rfl, ?_, ?_⟩
  · simp only [List.take_left' hlength]
  · simp only [List.drop_left' hlength]
    rw [hsize]

/-- An output of the declared size is too short for the digest. -/
theorem not_writesDeclaredSize_of_lt (h : Digest.ofInfo info = .ok d) (hlt : info.size < d.size) :
    ¬ WritesDeclaredSize info := by
  intro hwrites
  let key : Key := ⟨.arcfourHmac, []⟩
  let output : List UInt8 := List.replicate info.size 0
  have hlength : output.length = info.size := List.length_replicate
  have hkey : key.length ≤ info.blockSize := Nat.zero_le _
  have hout : info.size ≤ output.length := Nat.le_of_eq hlength.symm
  have hanswer := (hwrites key [] [] output output hkey hout hout rfl).1
  rw [authenticate_eq h hkey hout, if_pos (hlength ▸ hlt)] at hanswer
  cases hanswer

/-- The digest ends before the declared size, and the bytes behind it are those that were there. -/
theorem not_writesDeclaredSize_of_gt (h : Digest.ofInfo info = .ok d) (hgt : d.size < info.size) :
    ¬ WritesDeclaredSize info := by
  intro hwrites
  let key : Key := ⟨.arcfourHmac, []⟩
  let tag : List UInt8 := code d.hash key.bytes []
  have hkey : key.length ≤ info.blockSize := Nat.zero_le _
  have hle : d.size ≤ info.size := Nat.le_of_lt hgt
  have hout : ∀ b : UInt8, info.size ≤ (List.replicate info.size b).length := by
    intro b
    exact Nat.le_of_eq List.length_replicate.symm
  have hafter : ∀ b : UInt8,
      (authenticate info key [] (List.replicate info.size b)).after.take info.size =
        tag ++ List.replicate (info.size - d.size) b := by
    intro b
    rw [authenticate_of_room h hkey (hout b) (Nat.le_trans hle (hout b)), List.drop_replicate]
    apply List.take_of_length_le
    rw [List.length_append, length_code, List.length_replicate]
    exact Nat.le_of_eq (Nat.add_sub_cancel' hle)
  -- two outputs that differ behind the digest still differ after the calls
  have hsame := (hwrites key [] [] (List.replicate info.size 0) (List.replicate info.size 1) hkey
    (hout 0) (hout 1) rfl).2.1
  rw [hafter, hafter] at hsame
  have hbytes := List.append_cancel_left hsame
  rw [List.replicate_inj] at hbytes
  rcases hbytes.2 with hzero | hone
  · exact Nat.sub_ne_zero_of_lt hgt hzero
  · cases hone

/-- A call that passes the checks of a hash that names a digest writes the code of the signed bytes
in the size of the digest, or breaks down where the output is shorter than the digest. So the
declared size is what callers expect of it exactly if it is the size of the digest. -/
theorem authenticate_writes_digest_size (info : HashInfo) (d : Digest)
    (h : Digest.ofInfo info = .ok d) :
    (∀ key m output, key.length ≤ info.blockSize → info.size ≤ output.length →
        authenticate info key m output =
          if output.length < d.size then ⟨.error .breakdown, output⟩
          else ⟨.ok info.size, code d.hash key.bytes m.signedBytes ++ output.drop d.size⟩) ∧
      (WritesDeclaredSize info ↔ info.size = d.size) := by
  refine ⟨?_, ?_, ?_⟩
  · intro key m output hkey hout
    exact authenticate_eq h hkey hout m
  · intro hwrites
    rcases Nat.lt_trichotomy info.size d.size with hlt | heq | hgt
    · exact absurd hwrites (not_writesDeclaredSize_of_lt h hlt)
    · exact heq
    · exact absurd hwrites (not_writesDeclaredSize_of_gt h hgt)
  · intro hsize
    exact writesDeclaredSize_of_eq h hsize

/-- A hash that declares the size of another digest than the one that its name selects. -/
theorem authenticate_writes_digest_size_undeclared :
    let info : HashInfo := ⟨"SHA256-160", 20, 64⟩
    Digest.ofInfo info = .ok .sha256 ∧ ¬ WritesDeclaredSize info := by
  intro info
  have hdigest : Digest.ofInfo info = .ok .sha256 := ofInfo_of_name (by decide)
  rcases authenticate_writes_digest_size info .sha256 hdigest with ⟨-, hiff⟩
  refine ⟨hdigest, ?_⟩
  intro hwrites
  have hsize : (20 : Nat) = 32 := hiff.1 hwrites
  cases hsize

/-- The bytes behind the declared size are overwritten, and an output of the declared size is too
short. -/
theorem sha256_does_not_stop_at_declared_size :
    let info : HashInfo := ⟨"SHA256-160", 20, 64⟩
    let key : Key := ⟨.arcfourHmac, [0x6B, 0x65, 0x79]⟩
    let m : Message := [⟨.data, [0x61, 0x62, 0x63]⟩]
    let output : List UInt8 := List.replicate 40 0xEE
    let t := authenticate info key m output
    Digest.ofInfo info = .ok .sha256 ∧ key.length ≤ info.blockSize ∧ info.size ≤ output.length ∧
      t.answer = .ok info.size ∧ t.after.drop info.size ≠ output.drop info.size ∧
      (authenticate info key m (output.take info.size)).answer = .error .breakdown := by
  intro info key m output t
  have hdigest : Digest.ofInfo info = .ok .sha256 := ofInfo_of_name (by decide)
  have hkey : key.length ≤ info.blockSize := by decide
  have hout : info.size ≤ output.length := by decide
  have hshort : info.size ≤ (output.take info.size).length := by decide
  have ht : t = _ := authenticate_eq hdigest hkey hout m
  refine ⟨hdigest, hkey, hout, ?_, ?_, ?_⟩
  · rw [ht]
    rfl
  · rw [ht]
    decide +kernel
  · rw [authenticate_eq hdigest hkey hshort]
    rfl

end Hmac
end Kerberos
