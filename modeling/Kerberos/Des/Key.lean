import Kerberos.Error
import Kerberos.Key

/-!
# Keys of the block cipher

A key has eight bytes whose low bits are parity bits: a byte with odd parity has an odd number of
ones. Sixteen keys are weak, because their key schedules make encryption undo itself or undo
encryption under another of the sixteen. `keyOfRandom` makes a good key from seven random bytes.
-/

namespace Kerberos
namespace Des

/-! ## Parity -/

def ones (b : UInt8) : Nat :=
  (List.range 8).countP fun i => b.toNat.testBit i

/-- The byte with its low bit set so that the number of ones is odd. -/
def fixByte (b : UInt8) : UInt8 :=
  let high := b &&& 0xFE
  high ||| (if ones high % 2 = 0 then 1 else 0)

def fixParity (key : List UInt8) : List UInt8 :=
  key.map fixByte

def hasOddParity (key : List UInt8) : Bool :=
  key.all fun b => ones b % 2 = 1

/-! ## Weak keys -/

/-- The four keys under which encryption is its own inverse. -/
def weakKeys : List (List UInt8) :=
  [[0x01, 0x01, 0x01, 0x01, 0x01, 0x01, 0x01, 0x01],
   [0xFE, 0xFE, 0xFE, 0xFE, 0xFE, 0xFE, 0xFE, 0xFE],
   [0xE0, 0xE0, 0xE0, 0xE0, 0xF1, 0xF1, 0xF1, 0xF1],
   [0x1F, 0x1F, 0x1F, 0x1F, 0x0E, 0x0E, 0x0E, 0x0E]]

/-- The six pairs of keys of which each undoes encryption under the other. -/
def semiWeakPairs : List (List UInt8 × List UInt8) :=
  [([0x01, 0x1F, 0x01, 0x1F, 0x01, 0x0E, 0x01, 0x0E],
    [0x1F, 0x01, 0x1F, 0x01, 0x0E, 0x01, 0x0E, 0x01]),
   ([0x01, 0xE0, 0x01, 0xE0, 0x01, 0xF1, 0x01, 0xF1],
    [0xE0, 0x01, 0xE0, 0x01, 0xF1, 0x01, 0xF1, 0x01]),
   ([0x01, 0xFE, 0x01, 0xFE, 0x01, 0xFE, 0x01, 0xFE],
    [0xFE, 0x01, 0xFE, 0x01, 0xFE, 0x01, 0xFE, 0x01]),
   ([0x1F, 0xE0, 0x1F, 0xE0, 0x0E, 0xF1, 0x0E, 0xF1],
    [0xE0, 0x1F, 0xE0, 0x1F, 0xF1, 0x0E, 0xF1, 0x0E]),
   ([0x1F, 0xFE, 0x1F, 0xFE, 0x0E, 0xFE, 0x0E, 0xFE],
    [0xFE, 0x1F, 0xFE, 0x1F, 0xFE, 0x0E, 0xFE, 0x0E]),
   ([0xE0, 0xFE, 0xE0, 0xFE, 0xF1, 0xFE, 0xF1, 0xFE],
    [0xFE, 0xE0, 0xFE, 0xE0, 0xFE, 0xF1, 0xFE, 0xF1])]

/-- Whether a key with odd parity is weak or semi-weak. Forms of the sixteen keys with other
parity bits do not count. -/
def isWeak (key : List UInt8) : Bool :=
  weakKeys.contains key || semiWeakPairs.any fun p => p.1 == key || p.2 == key

/-! ## Keys from random bytes -/

def randomSize : Nat := 7

/-- The low bits of the random bytes, which their own bytes give up to parity, side by side above
the parity bit of the last key byte. -/
def gatherLowBits (random : List UInt8) : UInt8 :=
  random.zipIdx.foldl (fun acc p => acc ||| ((p.1 &&& 1) <<< UInt8.ofNat (p.2 + 1))) 0

/-- The key with odd parity that holds all bits of seven random bytes. -/
def spread (random : List UInt8) : List UInt8 :=
  fixParity (random ++ [gatherLowBits random])

/-- The key with the upper half of its last byte inverted, which keeps its parity. -/
def perturb (key : List UInt8) : List UInt8 :=
  key.modify 7 (· ^^^ 0xF0)

/-- Makes a key that is not weak from seven random bytes. -/
def keyOfRandom (random : List UInt8) : Except Error Key :=
  if random.length = randomSize then
    let key := spread random
    .ok ⟨.desCbcCrc, if isWeak key then perturb key else key⟩
  else .error .internal

end Des
end Kerberos
