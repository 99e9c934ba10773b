/-!
# Integer literals

A literal is one or more ASCII digits, with leading zeros allowed, after an optional sign.
Nothing else may stand in it: no blanks, no separators, no digits of other scripts.

Literals are read as numbers without bounds (`unsigned?`, `signed?`) or as words of 32 bits
(`word?`). The reader of words works on words alone: it checks the range after every operation.
-/

namespace Kerberos
namespace Text
namespace Integer

def digitValue (c : Char) : Nat :=
  c.toNat - '0'.toNat

/-- The value of a string of digits, the most significant first. -/
def value (digits : List Char) : Nat :=
  digits.foldl (fun n c => 10 * n + digitValue c) 0

def digits? (cs : List Char) : Option Nat :=
  if !cs.isEmpty && cs.all Char.isDigit then some (value cs) else none

/-- Reads digits after an optional `+`. -/
def unsigned? : List Char → Option Nat
  | '+' :: cs => digits? cs
  | cs => digits? cs

/-- Reads digits after an optional `+` or `-`. -/
def signed? : List Char → Option Int
  | '-' :: cs => (digits? cs).map fun n => -(n : Int)
  | cs => (unsigned? cs).map fun n => (n : Int)

/-! ## Words -/

/-- The sign of a literal, which is `plus` where none is written. -/
inductive Sign
  | plus
  | minus
  deriving DecidableEq

def Sign.apply : Sign → Int → Int
  | plus, n => n
  | minus, n => -n

/-- The number, if a signed word of 32 bits can hold it. -/
def fit? (n : Int) : Option Int :=
  if -0x80000000 ≤ n ∧ n < 0x80000000 then some n else none

/-- Puts one more digit behind a word: the word moves up by one place, and the digit is added or,
behind a minus sign, subtracted. -/
def appendDigit? (s : Sign) (n : Int) (c : Char) : Option Int := do
  let shifted ← fit? (10 * n)
  fit? (shifted + s.apply (digitValue c))

def wordDigits? (s : Sign) (cs : List Char) : Option Int :=
  if !cs.isEmpty && cs.all Char.isDigit then cs.foldlM (appendDigit? s) 0 else none

/-- Reads a signed word of 32 bits. A literal for a number that is no such word has no result. -/
def word? : List Char → Option Int
  | '-' :: cs => wordDigits? .minus cs
  | '+' :: cs => wordDigits? .plus cs
  | cs => wordDigits? .plus cs

end Integer
end Text
end Kerberos
