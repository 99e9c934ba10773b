import Kerberos.Digest.Construction
import Kerberos.Digest.Word

/-!
# MD5

The digest of 16 bytes. Four groups of sixteen steps mix the words of a block into four words of
state; words are made of bytes with the least significant one first.
-/

namespace Kerberos
namespace Digest
namespace Md5

/-- The four words of state. -/
structure State where
  a : UInt32
  b : UInt32
  c : UInt32
  d : UInt32
  deriving DecidableEq

def constants : List UInt32 :=
  [0xd76aa478, 0xe8c7b756, 0x242070db, 0xc1bdceee, 0xf57c0faf, 0x4787c62a,
   0xa8304613, 0xfd469501, 0x698098d8, 0x8b44f7af, 0xffff5bb1, 0x895cd7be,
   0x6b901122, 0xfd987193, 0xa679438e, 0x49b40821, 0xf61e2562, 0xc040b340,
   0x265e5a51, 0xe9b6c7aa, 0xd62f105d, 0x02441453, 0xd8a1e681, 0xe7d3fbc8,
   0x21e1cde6, 0xc33707d6, 0xf4d50d87, 0x455a14ed, 0xa9e3e905, 0xfcefa3f8,
   0x676f02d9, 0x8d2a4c8a, 0xfffa3942, 0x8771f681, 0x6d9d6122, 0xfde5380c,
   0xa4beea44, 0x4bdecfa9, 0xf6bb4b60, 0xbebfbc70, 0x289b7ec6, 0xeaa127fa,
   0xd4ef3085, 0x04881d05, 0xd9d4d039, 0xe6db99e5, 0x1fa27cf8, 0xc4ac5665,
   0xf4292244, 0x432aff97, 0xab9423a7, 0xfc93a039, 0x655b59c3, 0x8f0ccc92,
   0xffeff47d, 0x85845dd1, 0x6fa87e4f, 0xfe2ce6e0, 0xa3014314, 0x4e0811a1,
   0xf7537e82, 0xbd3af235, 0x2ad7d2bb, 0xeb86d391]

/-- By how many places the steps of each group rotate, in turn. -/
def shifts (group : Nat) : List UInt32 :=
  match group with
  | 0 => [7, 12, 17, 22]
  | 1 => [5, 9, 14, 20]
  | 2 => [4, 11, 16, 23]
  | _ => [6, 10, 15, 21]

/-- The function of a group on three words of state. -/
def combine (group : Nat) (b c d : UInt32) : UInt32 :=
  match group with
  | 0 => (b &&& c) ||| (~~~b &&& d)
  | 1 => (d &&& b) ||| (~~~d &&& c)
  | 2 => b ^^^ c ^^^ d
  | _ => c ^^^ (b ||| ~~~d)

/-- Which word of the block the step with number `t` takes. -/
def wordIndex (t : Nat) : Nat :=
  match t / 16 with
  | 0 => t % 16
  | 1 => (5 * t + 1) % 16
  | 2 => (3 * t + 5) % 16
  | _ => 7 * t % 16

def step (words : Array UInt32) (s : State) (step : UInt32 × Nat) : State :=
  let (k, t) := step
  let group := t / 16
  let sum := combine group s.b s.c s.d + s.a + k + words.getD (wordIndex t) 0
  ⟨s.d, s.b + rotateLeft sum ((shifts group).getD (t % 4) 0), s.b, s.c⟩

def compress (s : State) (block : List UInt8) : State :=
  let r := constants.zipIdx.foldl (step (wordsLE block).toArray) s
  ⟨s.a + r.a, s.b + r.b, s.c + r.c, s.d + r.d⟩

def construction : Construction State where
  start := ⟨0x67452301, 0xefcdab89, 0x98badcfe, 0x10325476⟩
  compress := compress
  lengthField := lengthLE
  output := fun s => [s.a, s.b, s.c, s.d].flatMap bytesLE

end Md5
end Digest
end Kerberos
