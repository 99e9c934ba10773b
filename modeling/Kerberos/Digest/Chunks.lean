/-!
# Chunks

A list cut into parts of one length, in order. What is left over at the end is not a chunk.
-/

namespace Kerberos
namespace Digest

def chunkUpTo {α : Type} (size : Nat) : Nat → List α → List (List α)
  | 0, _ => []
  | count + 1, xs => xs.take size :: chunkUpTo size count (xs.drop size)

def chunks {α : Type} (size : Nat) (xs : List α) : List (List α) :=
  chunkUpTo size (xs.length / size) xs

/-- What is left over when a list is cut into parts of length `size`. -/
def leftover {α : Type} (size : Nat) (xs : List α) : List α :=
  xs.drop (size * (xs.length / size))

end Digest
end Kerberos
