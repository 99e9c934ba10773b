/-!
# The stream cipher

A generator holds a permutation of the bytes and two indices. Each step exchanges two entries and
gives the next byte of the keystream, with which the message is mixed; mixing with the same part
of the keystream a second time restores the message.
-/

namespace Kerberos
namespace Arcfour

def keySize : Nat := 16

/-- The permutation and the two indices from which the keystream is made. -/
structure Generator where
  box : Vector UInt8 256
  i : UInt8
  j : UInt8
  deriving DecidableEq

namespace Generator

/-! ## Keying -/

def identityBox : Vector UInt8 256 :=
  Vector.ofFn fun i => UInt8.ofNat i.val

def entry (box : Vector UInt8 256) (i : UInt8) : UInt8 :=
  box[i.toFin]

def exchange (box : Vector UInt8 256) (i j : UInt8) : Vector UInt8 256 :=
  box.swap i.toFin j.toFin i.toFin.isLt j.toFin.isLt

/-- One step of the keying: moves the second index on by a key byte and exchanges. -/
def keyStep (key : List UInt8) (s : Vector UInt8 256 × UInt8) (n : Nat) : Vector UInt8 256 × UInt8 :=
  let i := UInt8.ofNat n
  let j := s.2 + entry s.1 i + key.getD (n % key.length) 0
  (exchange s.1 i j, j)

/-- The generator at the start of the keystream of a key. -/
def ofKey (key : List UInt8) : Generator :=
  { box := ((List.range 256).foldl (keyStep key) (identityBox, 0)).1, i := 0, j := 0 }

/-! ## The keystream -/

/-- The next byte of the keystream, and the generator after it. -/
def next (g : Generator) : UInt8 × Generator :=
  let i := g.i + 1
  let a := entry g.box i
  let j := g.j + a
  let b := entry g.box j
  let box := exchange g.box i j
  (entry box (a + b), { box, i, j })

def keystream : Nat → Generator → List UInt8
  | 0, _ => []
  | n + 1, g =>
    let (k, g') := g.next
    k :: keystream n g'

def advance : Nat → Generator → Generator
  | 0, g => g
  | n + 1, g => advance n g.next.2

def apply (g : Generator) : List UInt8 → List UInt8 × Generator
  | [] => ([], g)
  | b :: rest =>
    let (k, g') := g.next
    let (rest', g'') := apply g' rest
    ((b ^^^ k) :: rest', g'')

end Generator
end Arcfour
end Kerberos
