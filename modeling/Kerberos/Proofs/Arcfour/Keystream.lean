import Kerberos.Arcfour

/-!
# Pieces of a keystream

A keystream can be taken in pieces: mixing two byte strings one after the other is mixing their
concatenation.
-/

namespace Kerberos
namespace Arcfour
namespace Generator

/-- A byte string mixed with as much of the keystream as it is long. -/
def mix (g : Generator) (bytes : List UInt8) : List UInt8 :=
  List.zipWith (· ^^^ ·) bytes (keystream bytes.length g)

theorem mix_nil (g : Generator) : g.mix [] = [] :=
  rfl

theorem mix_cons (g : Generator) (b : UInt8) (rest : List UInt8) :
    g.mix (b :: rest) = (b ^^^ g.next.1) :: g.next.2.mix rest :=
  rfl

/-- Mixing takes the generator on by the number of bytes mixed. -/
theorem apply_eq (g : Generator) (bytes : List UInt8) :
    g.apply bytes = (g.mix bytes, advance bytes.length g) := by
  induction bytes generalizing g with
  | nil => rfl
  | cons b rest ih => simp only [apply, ih, mix_cons, List.length_cons, advance]

theorem length_mix (g : Generator) (bytes : List UInt8) : (g.mix bytes).length = bytes.length := by
  induction bytes generalizing g with
  | nil => rfl
  | cons b rest ih => simp only [mix_cons, List.length_cons, ih]

theorem advance_add (n k : Nat) (g : Generator) : advance (n + k) g = advance k (advance n g) := by
  induction n generalizing g with
  | zero => simp only [Nat.zero_add, advance]
  | succ n ih => simp only [Nat.succ_add, advance, ih]

/-- The second piece is mixed with the keystream from where the first one left it. -/
theorem mix_append (g : Generator) (first second : List UInt8) :
    g.mix (first ++ second) = g.mix first ++ (advance first.length g).mix second := by
  induction first generalizing g with
  | nil => rfl
  | cons b rest ih => simp only [List.cons_append, mix_cons, ih, List.length_cons, advance]

/-- Mixing with the same part of the keystream a second time restores the bytes. -/
theorem mix_mix (g : Generator) (bytes : List UInt8) : g.mix (g.mix bytes) = bytes := by
  induction bytes generalizing g with
  | nil => rfl
  | cons b rest ih =>
    have hbyte : b ^^^ g.next.1 ^^^ g.next.1 = b := by
      rw [UInt8.xor_assoc, UInt8.xor_self, UInt8.xor_zero]
    simp only [mix_cons, hbyte, ih]

end Generator
end Arcfour
end Kerberos
