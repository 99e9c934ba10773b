import Kerberos.Proofs.Registry.Checksum

/-!
# The hashes that the library knows

A table holds what has been entered in it. So every hash of the built-in registry is one of the
three that the library declares, with the size of its digest, and no checksum made with it breaks
down.
-/

namespace Kerberos

namespace Registry

/-! ## The built-in hashes -/

variable {name : String} {info : HashInfo}

theorem mem_builtin_of_hash (h : builtin.hash name = .ok info) : info ∈ HashInfo.builtin := by
  rw [hash] at h
  cases hfind : builtin.hashes.find? name with
  | none =>
    rw [hfind] at h
    cases h
  | some found =>
    rw [hfind] at h
    cases h
    rcases Table.mem_entries_of_find? hfind with ⟨e, he, rfl⟩
    rcases List.mem_map.1 (Table.mem_of_mem_ofList he) with ⟨declared, hdeclared, rfl⟩
    exact hdeclared

/-- The library declares the sizes that its digests have. -/
theorem size_eq_of_mem_builtin (h : info ∈ HashInfo.builtin) {d : Digest}
    (hd : Digest.ofInfo info = .ok d) : info.size = d.size := by
  have hnamed : ∀ declared ∈ HashInfo.builtin,
      ∃ d, Digest.ofName? declared.name = some d ∧ declared.size = d.size := by
    decide
  rcases hnamed info h with ⟨d', hname, hsize⟩
  rw [Hmac.ofInfo_of_name hname] at hd
  cases hd
  exact hsize

/-! ## Checksums -/

theorem makeChecksum_ne_breakdown {r : Registry}
    (h : ∀ info, r.hash name = .ok info → ∀ d, Digest.ofInfo info = .ok d → d.size ≤ info.size)
    (key : Key) (m : Message) : r.makeChecksum name key m ≠ .error .breakdown := by
  intro hbreakdown
  cases makeChecksum_ends_iff.1 hbreakdown with
  | @noRoom info d hfound _ _ hname hroom =>
    have hhash : r.hash name = .ok info := by rw [hash, hfound]
    have hdigest : Digest.ofInfo info = .ok d :=
      Hmac.ofInfo_of_name (Digest.ofName?_eq_some_iff.2 hname)
    exact Nat.not_le_of_lt hroom (h info hhash d hdigest)

theorem makeChecksum_builtin_ne_breakdown (name : String) (key : Key) (m : Message) :
    builtin.makeChecksum name key m ≠ .error .breakdown := by
  apply makeChecksum_ne_breakdown
  intro info hinfo d hd
  exact Nat.le_of_eq (size_eq_of_mem_builtin (mem_builtin_of_hash hinfo) hd).symm

end Registry
end Kerberos
