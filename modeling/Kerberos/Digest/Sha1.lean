import Kerberos.Digest.Construction
import Kerberos.Digest.Word

/-!
# SHA-1

The digest of 20 bytes. The sixteen words of a block are extended to eighty, which four groups of
twenty steps mix into five words of state; words have their most significant byte first.
-/

namespace Kerberos
namespace Digest
namespace Sha1

/-- The five words of state. -/
structure State where
  a : UInt32
  b : UInt32
  c : UInt32
  d : UInt32
  e : UInt32
  deriving DecidableEq

def extend (w : Array UInt32) : Array UInt32 :=
  let t := w.size
  w.push (rotateLeft
    (w.getD (t - 3) 0 ^^^ w.getD (t - 8) 0 ^^^ w.getD (t - 14) 0 ^^^ w.getD (t - 16) 0) 1)

def schedule (block : List UInt8) : Array UInt32 :=
  Nat.repeat extend 64 (wordsBE block).toArray

/-- The function of the step with number `t` on three words of state. -/
def combine (t : Nat) (b c d : UInt32) : UInt32 :=
  match t / 20 with
  | 0 => (b &&& c) ||| (~~~b &&& d)
  | 1 => b ^^^ c ^^^ d
  | 2 => (b &&& c) ||| (b &&& d) ||| (c &&& d)
  | _ => b ^^^ c ^^^ d

def constant (t : Nat) : UInt32 :=
  match t / 20 with
  | 0 => 0x5a827999
  | 1 => 0x6ed9eba1
  | 2 => 0x8f1bbcdc
  | _ => 0xca62c1d6

def step (s : State) (step : UInt32 × Nat) : State :=
  let (w, t) := step
  ⟨rotateLeft s.a 5 + combine t s.b s.c s.d + s.e + constant t + w, s.a, rotateLeft s.b 30, s.c, s.d⟩

def compress (s : State) (block : List UInt8) : State :=
  let r := (schedule block).toList.zipIdx.foldl step s
  ⟨s.a + r.a, s.b + r.b, s.c + r.c, s.d + r.d, s.e + r.e⟩

def construction : Construction State where
  start := ⟨0x67452301, 0xefcdab89, 0x98badcfe, 0x10325476, 0xc3d2e1f0⟩
  compress := compress
  lengthField := lengthBE
  output := fun s => [s.a, s.b, s.c, s.d, s.e].flatMap bytesBE

end Sha1
end Digest
end Kerberos
