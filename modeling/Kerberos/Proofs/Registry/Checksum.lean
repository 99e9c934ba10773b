import Kerberos.Proofs.Hmac.Outcome
import Kerberos.Proofs.Registry.History

/-!
# Checksums and their verification

A call for a checksum ends in one of six ways, and what is found under the name of the hash, the key
and the sizes that the hash declares say in which: `ChecksumEnds` lists them. A checksum has the
declared size, even where the digest is shorter and zeros follow it. Verification fails where making
the checksum fails, and otherwise compares all bytes and both lengths. Main statement:
`verifyChecksum_exact`.
-/

namespace Kerberos
namespace Registry

open Registration (hashEntries)

/-! ## Comparing byte strings -/

/-- Differences that were collected are never lost. -/
theorem foldl_or_zipWith_xor {xs ys : List UInt8} (h : xs.length = ys.length) (acc : UInt8) :
    (List.zipWith (· ^^^ ·) xs ys).foldl (· ||| ·) acc = 0 ↔ acc = 0 ∧ xs = ys := by
  -- on both strings, for what the bytes in front of them have collected
  induction xs generalizing ys acc with
  | nil =>
    cases ys with
    | nil => simp
    | cons y ys => cases h
  | cons x xs ih =>
    cases ys with
    | nil => cases h
    | cons y ys =>
      rw [List.zipWith_cons_cons, List.foldl_cons, ih (Nat.succ.inj h), UInt8.or_eq_zero_iff,
        UInt8.xor_eq_zero_iff, List.cons.injEq, and_assoc]

theorem sameBytes_iff {xs ys : List UInt8} : sameBytes xs ys = true ↔ xs = ys := by
  rw [sameBytes, Bool.and_eq_true, beq_iff_eq, beq_iff_eq]
  constructor
  · rintro ⟨hlength, hsame⟩
    exact ((foldl_or_zipWith_xor hlength 0).1 hsame).2
  · rintro rfl
    exact ⟨rfl, (foldl_or_zipWith_xor rfl 0).2 ⟨rfl, rfl⟩⟩

/-! ## The ways in which a call for a checksum ends -/

/-- The ways in which a call for a checksum ends, by what is found under the name of the hash. Each
of them says that the checks of those before it have passed. -/
inductive ChecksumEnds (found : Option HashInfo) (name : String) (key : Key) (m : Message) :
    Except Fault (List UInt8) → Prop
  /-- There is no hash of the name. -/
  | notFound (hfound : found = none) :
      ChecksumEnds found name key m (.error (.error (.typeNotFound name)))
  /-- The declared size is larger than any allocation. -/
  | tooLarge {info : HashInfo} (hfound : found = some info)
      (hlarge : Size.largestAllocation < info.size) :
      ChecksumEnds found name key m (.error (.error .outOfMemory))
  /-- The key is longer than the declared block. -/
  | longKey {info : HashInfo} (hfound : found = some info)
      (hsize : info.size ≤ Size.largestAllocation) (hkey : info.blockSize < key.length) :
      ChecksumEnds found name key m (.error (.error .internal))
  /-- The hash has a name that selects no digest. -/
  | noDigest {info : HashInfo} (hfound : found = some info)
      (hsize : info.size ≤ Size.largestAllocation) (hkey : key.length ≤ info.blockSize)
      (hname : ∀ d, ¬Digest.NamedBy d info.name) :
      ChecksumEnds found name key m (.error (.error .internal))
  /-- The declared size is too small for the digest. -/
  | noRoom {info : HashInfo} {d : Digest} (hfound : found = some info)
      (hsize : info.size ≤ Size.largestAllocation) (hkey : key.length ≤ info.blockSize)
      (hname : d.NamedBy info.name) (hroom : info.size < d.size) :
      ChecksumEnds found name key m (.error .breakdown)
  /-- The code of the signed bytes stands in front of zeros up to the declared size. -/
  | made {info : HashInfo} {d : Digest} (hfound : found = some info)
      (hsize : info.size ≤ Size.largestAllocation) (hkey : key.length ≤ info.blockSize)
      (hname : d.NamedBy info.name) (hroom : d.size ≤ info.size) :
      ChecksumEnds found name key m
        (.ok (Hmac.code d.hash key.bytes m.signedBytes ++ List.replicate (info.size - d.size) 0))

variable {r : Registry} {name : String} {key : Key} {m : Message}
  {t : Except Fault (List UInt8)}

/-- A hash that is small enough to be allocated is called with an output of as many zeros. -/
theorem makeChecksum_of_ends_authenticate {info : HashInfo}
    (hfound : r.hashes.find? name = some info) (hsize : info.size ≤ Size.largestAllocation)
    {answer : Except Fault Nat} {sum : List UInt8}
    (hends : Hmac.Ends info key m (List.replicate info.size 0) ⟨answer, sum⟩) :
    r.makeChecksum name key m = answer.map fun _ => sum := by
  have hcall := Hmac.authenticate_of_ends hends
  simp only [makeChecksum, hash, hfound, if_neg (Nat.not_lt.2 hsize), hcall]
  cases answer <;> rfl

theorem makeChecksum_of_ends (h : ChecksumEnds (r.hashes.find? name) name key m t) :
    r.makeChecksum name key m = t := by
  cases h with
  | notFound hfound => simp only [makeChecksum, hash, hfound]
  | tooLarge hfound hlarge => simp only [makeChecksum, hash, hfound, if_pos hlarge]
  | longKey hfound hsize hkey =>
    exact makeChecksum_of_ends_authenticate hfound hsize (.longKey hkey)
  | noDigest hfound hsize hkey hname =>
    refine makeChecksum_of_ends_authenticate hfound hsize (.unknownName hkey ?_ hname)
    exact Nat.le_of_eq List.length_replicate.symm
  | noRoom hfound hsize hkey hname hroom =>
    refine makeChecksum_of_ends_authenticate hfound hsize (.noRoom hkey ?_ hname ?_)
    · exact Nat.le_of_eq List.length_replicate.symm
    · exact Nat.lt_of_le_of_lt (Nat.le_of_eq List.length_replicate) hroom
  | @made info d hfound hsize hkey hname hroom =>
    -- the zeros behind the code are those of the output it was written to
    have hrest : List.replicate (info.size - d.size) (0 : UInt8) =
        (List.replicate info.size 0).drop d.size := List.drop_replicate.symm
    rw [hrest]
    refine makeChecksum_of_ends_authenticate hfound hsize (.written hkey ?_ hname ?_)
    · exact Nat.le_of_eq List.length_replicate.symm
    · exact Nat.le_trans hroom (Nat.le_of_eq List.length_replicate.symm)

/-- There is no seventh way. -/
theorem exists_checksumEnds (found : Option HashInfo) (name : String) (key : Key) (m : Message) :
    ∃ t, ChecksumEnds found name key m t := by
  -- the cases are split in the order of the checks
  cases hfound : found with
  | none => exact ⟨_, .notFound rfl⟩
  | some info =>
    by_cases hsize : info.size ≤ Size.largestAllocation
    · by_cases hkey : key.length ≤ info.blockSize
      · cases hdigest : Digest.ofName? info.name with
        | none => exact ⟨_, .noDigest rfl hsize hkey (Digest.ofName?_eq_none_iff.1 hdigest)⟩
        | some d =>
          have hname : d.NamedBy info.name := Digest.ofName?_eq_some_iff.1 hdigest
          by_cases hroom : d.size ≤ info.size
          · exact ⟨_, .made rfl hsize hkey hname hroom⟩
          · exact ⟨_, .noRoom rfl hsize hkey hname (Nat.lt_of_not_le hroom)⟩
      · exact ⟨_, .longKey rfl hsize (Nat.lt_of_not_le hkey)⟩
    · exact ⟨_, .tooLarge rfl (Nat.lt_of_not_le hsize)⟩

theorem makeChecksum_ends_iff :
    r.makeChecksum name key m = t ↔ ChecksumEnds (r.hashes.find? name) name key m t := by
  constructor
  · rintro rfl
    rcases exists_checksumEnds (r.hashes.find? name) name key m with ⟨t, hends⟩
    rw [makeChecksum_of_ends hends]
    exact hends
  · exact makeChecksum_of_ends

/-! ## Verification -/

/-- Verification gives up where making the checksum does, and otherwise says whether it is the
expected one. -/
theorem verifyChecksum_eq (r : Registry) (name : String) (key : Key) (m : Message)
    (expected : List UInt8) :
    r.verifyChecksum name key m expected =
      (r.makeChecksum name key m).map fun sum => decide (sum = expected) := by
  rw [verifyChecksum]
  cases r.makeChecksum name key m with
  | error f => rfl
  | ok sum =>
    have hsame : sameBytes sum expected = decide (sum = expected) := by
      rw [Bool.eq_iff_iff, sameBytes_iff, decide_eq_true_iff]
    simp only [Except.map, hsame]

/-- After any registrations, a checksum has the size that the hash declares which was entered first
under its name: the authentication code of the signed bytes stands in front and zeros follow it. It is
made if and only if there is such a hash, its size can be allocated and has room for the digest that
the name of the hash selects, and the key is not longer than the declared block. It is not found if
and only if nothing was entered under the name, and too large if and only if the declared size is.
Verification has no answer if and only if there is no checksum, and then for the same reason. It
answers that a byte string is the checksum if and only if the two are equal. -/
theorem verifyChecksum_exact (origin : Origin) (steps : List Registration) (name : String)
    (key : Key) (m : Message) :
    let r := origin.registry.registerAll steps
    let entered := hashEntries (origin.steps ++ steps)
    let made := r.makeChecksum name key m
    (∀ t, made = t ↔ ChecksumEnds (entered.lookup name) name key m t) ∧
      (∀ sum, made = .ok sum ↔
        ∃ (info : HashInfo) (d : Digest), entered.lookup name = some info ∧
          info.size ≤ Size.largestAllocation ∧ key.length ≤ info.blockSize ∧
          d.NamedBy info.name ∧ d.size ≤ info.size ∧ sum.length = info.size ∧
          sum = Hmac.code d.hash key.bytes m.signedBytes ++
            List.replicate (info.size - d.size) 0) ∧
      (∀ missing, made = .error (.error (.typeNotFound missing)) ↔
        missing = name ∧ name ∉ entered.map (·.1)) ∧
      (made = .error (.error .outOfMemory) ↔
        ∃ info, entered.lookup name = some info ∧ Size.largestAllocation < info.size) ∧
      ∀ expected,
        (∀ f, r.verifyChecksum name key m expected = .error f ↔ made = .error f) ∧
          (r.verifyChecksum name key m expected = .ok true ↔ made = .ok expected) ∧
          (r.verifyChecksum name key m expected = .ok false ↔
            ∃ sum, made = .ok sum ∧ sum ≠ expected) := by
  intro r entered made
  have hends : ∀ t, made = t ↔ ChecksumEnds (entered.lookup name) name key m t := by
    intro t
    rw [← find?_hashes_registerAll origin steps name]
    exact makeChecksum_ends_iff
  refine ⟨hends, ?_, ?_, ?_, ?_⟩
  · intro sum
    rw [hends]
    constructor
    · intro h
      cases h with
      | @made info d hfound hsize hkey hname hroom =>
        refine ⟨info, d, hfound, hsize, hkey, hname, hroom, ?_, rfl⟩
        rw [List.length_append, Hmac.length_code, List.length_replicate, Nat.add_sub_cancel' hroom]
    · rintro ⟨info, d, hfound, hsize, hkey, hname, hroom, -, rfl⟩
      exact .made hfound hsize hkey hname hroom
  · intro missing
    rw [hends, ← Entries.lookup_eq_none_iff]
    constructor
    · intro h
      cases h with
      | notFound hfound => exact ⟨rfl, hfound⟩
    · rintro ⟨rfl, hfound⟩
      exact .notFound hfound
  · rw [hends]
    constructor
    · intro h
      cases h with
      | tooLarge hfound hlarge => exact ⟨_, hfound, hlarge⟩
    · rintro ⟨info, hfound, hlarge⟩
      exact .tooLarge hfound hlarge
  · intro expected
    have hverify : r.verifyChecksum name key m expected =
        made.map fun sum => decide (sum = expected) := verifyChecksum_eq r name key m expected
    rw [hverify]
    cases made with
    | error f => simp [Except.map]
    | ok sum => simp [Except.map]

/-- The hash that is there from the start, under whose name another one is refused, and one that
declares two bytes more than its digest has. A single byte decides whether a checksum is the right
one. -/
theorem verifyChecksum_exact_known_answers :
    let r := Origin.builtin.registry.registerAll
      [.hash ⟨"SHA1", 22, 64⟩, .hash ⟨"SHA256-272", 34, 64⟩]
    let jefe : Key := ⟨.arcfourHmac, [0x4A, 0x65, 0x66, 0x65]⟩
    let question : Message :=
      [⟨.signOnly, [0x77, 0x68, 0x61, 0x74, 0x20, 0x64, 0x6F, 0x20, 0x79, 0x61, 0x20]⟩,
       ⟨.padding, [0x50, 0x41, 0x44]⟩,
       ⟨.data, [0x77, 0x61, 0x6E, 0x74, 0x20, 0x66, 0x6F, 0x72, 0x20, 0x6E, 0x6F, 0x74, 0x68, 0x69,
         0x6E, 0x67, 0x3F]⟩]
    let greeting : Message := [⟨.data, [0x48, 0x69, 0x20, 0x54, 0x68, 0x65, 0x72, 0x65]⟩]
    r.verifyChecksum "SHA1" jefe question
        [0xEF, 0xFC, 0xDF, 0x6A, 0xE5, 0xEB, 0x2F, 0xA2, 0xD2, 0x74, 0x16, 0xD5, 0xF1, 0x84, 0xDF,
         0x9C, 0x25, 0x9A, 0x7C, 0x79] = .ok true ∧
      r.verifyChecksum "SHA1" jefe question
        [0xEF, 0xFC, 0xDF, 0x6A, 0xE5, 0xEB, 0x2F, 0xA2, 0xD2, 0x74, 0x16, 0xD5, 0xF1, 0x84, 0xDF,
         0x9C, 0x25, 0x9A, 0x7C, 0x78] = .ok false ∧
      r.makeChecksum "SHA256-272" ⟨.arcfourHmac, List.replicate 20 0x0B⟩ greeting =
        .ok [0xB0, 0x34, 0x4C, 0x61, 0xD8, 0xDB, 0x38, 0x53, 0x5C, 0xA8, 0xAF, 0xCE, 0xAF, 0x0B,
          0xF1, 0x2B, 0x88, 0x1D, 0xC2, 0x00, 0xC9, 0x83, 0x3D, 0xA7, 0x26, 0xE9, 0x37, 0x6C, 0x2E,
          0x32, 0xCF, 0xF7, 0x00, 0x00] := by
  intro r jefe question greeting
  let steps : List Registration := [.hash ⟨"SHA1", 22, 64⟩, .hash ⟨"SHA256-272", 34, 64⟩]
  rcases Hmac.code_known_answers with ⟨-, -, -, hquestion, hgreeting⟩
  rcases verifyChecksum_exact .builtin steps "SHA1" jefe question with ⟨-, hmade, -, -, hverify⟩
  have hsum := (hmade _).2 ⟨⟨"SHA1", 20, 64⟩, .sha1, by decide, by decide, by decide,
    Digest.ofName?_eq_some_iff.1 (by decide), by decide, rfl, hquestion.symm⟩
  refine ⟨(hverify _).2.1.2 hsum, (hverify _).2.2.2 ⟨_, hsum, by decide⟩, ?_⟩
  rcases verifyChecksum_exact .builtin steps "SHA256-272" ⟨.arcfourHmac, List.replicate 20 0x0B⟩
    greeting with ⟨-, hmade, -⟩
  exact (hmade _).2 ⟨⟨"SHA256-272", 34, 64⟩, .sha256, by decide, by decide, by decide,
    Digest.ofName?_eq_some_iff.1 (by decide), by decide, rfl,
    congrArg (· ++ [0x00, 0x00]) hgreeting.symm⟩

/-- A hash that declares four bytes more than its digest has, and whose name was taken afterwards. -/
example :
    let r := Registry.empty.registerAll [.hash ⟨"MD5-160", 20, 64⟩, .hash ⟨"MD5-160", 16, 64⟩]
    let key : Key := ⟨.arcfourHmac, [0x4A, 0x65, 0x66, 0x65]⟩
    let m : Message := [⟨.data, [0x61]⟩, ⟨.padding, [0]⟩, ⟨.signOnly, [0x62, 0x63]⟩]
    (r.makeChecksum "MD5-160" key m).toOption =
      some [12, 35, 220, 25, 160, 243, 65, 245, 150, 89, 55, 143, 70, 33, 187, 75, 0, 0, 0, 0] := by
  decide +kernel

end Registry
end Kerberos
