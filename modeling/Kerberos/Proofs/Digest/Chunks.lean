import Kerberos.Digest.Chunks

/-!
# Chunks of a list and of what follows it

A list can be cut as it comes: the chunks of a longer list are the chunks of its start, followed by
those of what the start has left over together with the rest. `chunkInduction` takes one chunk away
after the other. Lists that differ within one chunk only are split around it.
-/

namespace Kerberos
namespace Digest

variable {α : Type} {size : Nat}

theorem chunks_nil (size : Nat) : chunks size ([] : List α) = [] := by
  simp [chunks, chunkUpTo]

theorem chunks_of_lt {xs : List α} (h : xs.length < size) : chunks size xs = [] := by
  rw [chunks, Nat.div_eq_of_lt h, chunkUpTo]

theorem leftover_of_lt {xs : List α} (h : xs.length < size) : leftover size xs = xs := by
  rw [leftover, Nat.div_eq_of_lt h, Nat.mul_zero, List.drop_zero]

section Part

variable {part : List α}

theorem length_append_div (hsize : 0 < size) (hpart : part.length = size) (rest : List α) :
    (part ++ rest).length / size = rest.length / size + 1 := by
  rw [List.length_append, hpart, Nat.add_div_left _ hsize]

/-- A part of the right length in front of a list is its first chunk. -/
theorem chunks_append (hsize : 0 < size) (hpart : part.length = size) (rest : List α) :
    chunks size (part ++ rest) = part :: chunks size rest := by
  rw [chunks, length_append_div hsize hpart, chunkUpTo, List.take_left' hpart,
    List.drop_left' hpart, chunks]

theorem leftover_append (hsize : 0 < size) (hpart : part.length = size) (rest : List α) :
    leftover size (part ++ rest) = leftover size rest := by
  rw [leftover, length_append_div hsize hpart, Nat.mul_succ, Nat.add_comm, ← List.drop_drop,
    List.drop_left' hpart, leftover]

end Part

/-- What holds of lists that are shorter than a chunk, and of a list with a chunk in front of it
whenever it holds of the list, holds of all lists. -/
theorem chunkInduction {P : List α → Prop} (hsize : 0 < size)
    (hshort : ∀ xs, xs.length < size → P xs)
    (hpart : ∀ part rest, part.length = size → P rest → P (part ++ rest)) (xs : List α) : P xs := by
  by_cases hlt : xs.length < size
  · exact hshort xs hlt
  · have hle : size ≤ xs.length := Nat.le_of_not_lt hlt
    have hfirst : (xs.take size).length = size := List.length_take_of_le hle
    have hrest : P (xs.drop size) := chunkInduction hsize hshort hpart (xs.drop size)
    rw [← List.take_append_drop size xs]
    exact hpart (xs.take size) (xs.drop size) hfirst hrest
termination_by xs.length
decreasing_by
  rw [List.length_drop]
  exact Nat.sub_lt (Nat.lt_of_lt_of_le hsize hle) hsize

theorem chunks_append_leftover (hsize : 0 < size) (xs ys : List α) :
    chunks size (xs ++ ys) = chunks size xs ++ chunks size (leftover size xs ++ ys) := by
  induction xs using chunkInduction hsize with
  | hshort xs hlt => rw [chunks_of_lt hlt, leftover_of_lt hlt, List.nil_append]
  | hpart part rest hpart ih =>
    rw [List.append_assoc, chunks_append hsize hpart, chunks_append hsize hpart,
      leftover_append hsize hpart, ih, List.cons_append]

theorem leftover_append_leftover (hsize : 0 < size) (xs ys : List α) :
    leftover size (xs ++ ys) = leftover size (leftover size xs ++ ys) := by
  induction xs using chunkInduction hsize with
  | hshort xs hlt => rw [leftover_of_lt hlt]
  | hpart part rest hpart ih =>
    rw [List.append_assoc, leftover_append hsize hpart, leftover_append hsize hpart, ih]

/-! ## Lists that differ within one chunk -/

section OneChunk

variable {xs ys : List α} {i : Nat}

/-- The chunk with number `i` in its place. -/
theorem eq_append_chunk (size i : Nat) (xs : List α) :
    xs = xs.take (size * i) ++
      ((xs.drop (size * i)).take size ++ xs.drop (size * i + size)) := by
  rw [← List.drop_drop, List.take_append_drop, List.take_append_drop]

/-- There is a whole chunk where the lists differ. -/
theorem end_le_length_of_one_chunk (hwhole : xs.length % size = 0)
    (hlength : ys.length = xs.length) (hne : ys ≠ xs)
    (hchunk : ∀ j, ys[j]? ≠ xs[j]? → j / size = i) : size * i + size ≤ xs.length := by
  have hplace : ∃ j : Nat, ys[j]? ≠ xs[j]? := by
    apply Classical.byContradiction
    intro hnone
    apply hne
    apply List.ext_getElem?
    intro j
    exact Classical.not_not.1 fun hj => hnone ⟨j, hj⟩
  rcases hplace with ⟨j, hj⟩
  have hlt : j < xs.length := by
    apply Nat.lt_of_not_le
    intro hle
    apply hj
    rw [List.getElem?_eq_none hle, List.getElem?_eq_none (hlength ▸ hle)]
  rcases Nat.dvd_of_mod_eq_zero hwhole with ⟨count, hcount⟩
  have hlast : i < count := by
    rw [← hchunk j hj]
    exact Nat.div_lt_of_lt_mul (hcount ▸ hlt)
  rw [hcount, ← Nat.mul_succ]
  exact Nat.mul_le_mul_left size hlast

/-- Two lists of whole chunks that differ within the chunk with number `i` only have the same
chunks before and behind it. -/
theorem exists_split_of_one_chunk (hsize : 0 < size) (hwhole : xs.length % size = 0)
    (hlength : ys.length = xs.length) (hne : ys ≠ xs)
    (hchunk : ∀ j, ys[j]? ≠ xs[j]? → j / size = i) :
    ∃ before part part' rest : List α, xs = before ++ (part ++ rest) ∧
      ys = before ++ (part' ++ rest) ∧ before.length = size * i ∧ part.length = size ∧
      part'.length = size ∧ part' ≠ part := by
  have hend : size * i + size ≤ xs.length := end_le_length_of_one_chunk hwhole hlength hne hchunk
  have hsame : ∀ j, j / size ≠ i → ys[j]? = xs[j]? := by
    intro j hj
    exact Classical.not_not.1 fun hdiffer => hj (hchunk j hdiffer)
  have hbefore : ys.take (size * i) = xs.take (size * i) := by
    apply List.ext_getElem?
    intro j
    by_cases hj : j < size * i
    · rw [List.getElem?_take_of_lt hj, List.getElem?_take_of_lt hj]
      exact hsame j (Nat.ne_of_lt (Nat.div_lt_of_lt_mul hj))
    · rw [List.getElem?_take, List.getElem?_take, if_neg hj, if_neg hj]
  have hrest : ys.drop (size * i + size) = xs.drop (size * i + size) := by
    apply List.ext_getElem?
    intro j
    have hbehind : i < (size * i + size + j) / size := by
      rw [Nat.lt_iff_add_one_le, Nat.le_div_iff_mul_le hsize, Nat.mul_comm, Nat.mul_succ]
      exact Nat.le_add_right _ j
    rw [List.getElem?_drop, List.getElem?_drop]
    exact hsame _ (Nat.ne_of_gt hbehind)
  have hpart : ∀ zs : List α, zs.length = xs.length →
      ((zs.drop (size * i)).take size).length = size := by
    intro zs hzs
    apply List.length_take_of_le
    rw [List.length_drop, hzs]
    exact Nat.le_sub_of_add_le' hend
  have hys : ys = xs.take (size * i) ++
      ((ys.drop (size * i)).take size ++ xs.drop (size * i + size)) := by
    rw [← hbefore, ← hrest]
    exact eq_append_chunk size i ys
  refine ⟨xs.take (size * i), (xs.drop (size * i)).take size, (ys.drop (size * i)).take size,
    xs.drop (size * i + size), eq_append_chunk size i xs, hys, ?_, hpart xs rfl, hpart ys hlength,
    ?_⟩
  · exact List.length_take_of_le (Nat.le_trans (Nat.le_add_right _ size) hend)
  · intro hparts
    apply hne
    rw [hys, hparts]
    exact (eq_append_chunk size i xs).symm

end OneChunk

end Digest
end Kerberos
