import Kerberos.Digest
import Kerberos.Proofs.Digest.Chunks

/-!
# Digests of a message in pieces

An absorber that has taken in some pieces is determined by the bytes in them, and its digest is that
of all these bytes at once. A digest has as many bytes as its size says.
-/

namespace Kerberos
namespace Digest

/-! ## Absorbing pieces -/

section Absorbing

variable {σ : Type} (c : Construction σ)

theorem Construction.compressAll_append (state : σ) (xs ys : List UInt8) :
    c.compressAll state (xs ++ ys) =
      c.compressAll (c.compressAll state xs) (leftover blockSize xs ++ ys) := by
  simp only [Construction.compressAll, chunks_append_leftover (by decide : 0 < blockSize) xs ys,
    List.foldl_append]

namespace Absorber

/-- Two pieces may as well come at once. -/
theorem absorb_append (a : Absorber σ) (xs ys : List UInt8) :
    a.absorb c (xs ++ ys) = (a.absorb c xs).absorb c ys := by
  have hstate := c.compressAll_append a.state (a.pending ++ xs) ys
  have hpending := leftover_append_leftover (by decide : 0 < blockSize) (a.pending ++ xs) ys
  rw [List.append_assoc] at hstate hpending
  simp only [absorb, hstate, ← hpending, List.length_append, Nat.add_assoc]

theorem foldl_absorb (xs : List UInt8) (pieces : List (List UInt8)) :
    pieces.foldl (absorb c) ((start c).absorb c xs) = (start c).absorb c (xs ++ pieces.flatten) := by
  induction pieces generalizing xs with
  | nil => rw [List.flatten_nil, List.append_nil, List.foldl_nil]
  | cons piece rest ih =>
    rw [List.foldl_cons, ← absorb_append, ih, List.flatten_cons, List.append_assoc]

/-- The padding goes on where the last piece has stopped. -/
theorem finish_absorb (xs : List UInt8) : ((start c).absorb c xs).finish c = c.hash xs := by
  simp only [finish, absorb, start, List.nil_append, Nat.zero_add, Construction.hash,
    c.compressAll_append c.start xs]

end Absorber
end Absorbing

/-! ## The length of a digest -/

theorem length_hash (d : Digest) (message : List UInt8) : (d.hash message).length = d.size := by
  cases d <;> rfl

end Digest
end Kerberos
