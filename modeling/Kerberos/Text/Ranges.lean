/-!
# Ranges of code points

Classes of characters are given as ranges of code points, in ascending order.
-/

namespace Kerberos
namespace Text

/-- Tells whether a code point lies in one of some ranges. -/
def inRanges (ranges : List (Nat × Nat)) (c : Char) : Bool :=
  ranges.any fun r => r.1 ≤ c.toNat && c.toNat ≤ r.2

end Text
end Kerberos
