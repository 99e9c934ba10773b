import Kerberos.Des.Round
import Kerberos.Des.Schedule

/-!
# The block cipher

Sixteen rounds between two permutations. A round exchanges the halves of a block after mixing the
scrambled right half into the left one, so running the rounds with the round keys in the opposite
order undoes them. Main statements: the bytes of a block determine it, and every eight bytes are
those of a block.
-/

namespace Kerberos
namespace Des

/-- A block of eight bytes, the first byte on the left. -/
abbrev Block := BitVec 64

def blockSize : Nat := 8

/-! ## Rounds -/

def round (halves : BitVec 32 × BitVec 32) (key : BitVec 48) : BitVec 32 × BitVec 32 :=
  (halves.2, halves.1 ^^^ scramble halves.2 key)

/-- All rounds, followed by an exchange of the halves. -/
def rounds (keys : List (BitVec 48)) (halves : BitVec 32 × BitVec 32) : BitVec 32 × BitVec 32 :=
  (keys.foldl round halves).swap

def crypt (keys : List (BitVec 48)) (block : Block) : Block :=
  let mixed := permute initial block
  let halves := rounds keys (mixed.extractLsb' 32 32, mixed.extractLsb' 0 32)
  permute final (halves.1 ++ halves.2)

def encryptBlock (key : BitVec 64) : Block → Block :=
  crypt (schedule key)

def decryptBlock (key : BitVec 64) : Block → Block :=
  crypt (schedule key).reverse

/-! ## Blocks and bytes -/

def ofBytes (bytes : List UInt8) : Block :=
  BitVec.ofNat 64 (bytes.foldl (fun n b => 256 * n + b.toNat) 0)

def toBytes (block : Block) : List UInt8 :=
  [56, 48, 40, 32, 24, 16, 8, 0].map fun low => UInt8.ofBitVec (block.extractLsb' low 8)

theorem length_toBytes (block : Block) : (toBytes block).length = blockSize :=
  rfl

theorem ofBytes_toBytes (block : Block) : ofBytes (toBytes block) = block := by
  apply BitVec.eq_of_toNat_eq
  have h : block.toNat < 2 ^ 64 := block.isLt
  simp only [toBytes, ofBytes, List.map_cons, List.map_nil, List.foldl_cons, List.foldl_nil,
    UInt8.toNat_ofBitVec, BitVec.extractLsb'_toNat, BitVec.toNat_ofNat, Nat.shiftRight_eq_div_pow]
  omega

theorem toBytes_ofBytes {bytes : List UInt8} (h : bytes.length = blockSize) :
    toBytes (ofBytes bytes) = bytes := by
  match bytes, h with
  | [a, b, c, d, e, f, g, i], _ =>
    have ha := a.toNat_lt
    have hb := b.toNat_lt
    have hc := c.toNat_lt
    have hd := d.toNat_lt
    have he := e.toNat_lt
    have hf := f.toNat_lt
    have hg := g.toNat_lt
    have hi := i.toNat_lt
    -- each byte on both sides as a number
    simp only [toBytes, ofBytes, List.map_cons, List.map_nil, List.foldl_cons, List.foldl_nil,
      List.cons.injEq, and_true, ← UInt8.toNat_inj, UInt8.toNat_ofBitVec,
      BitVec.extractLsb'_toNat, BitVec.toNat_ofNat, Nat.shiftRight_eq_div_pow]
    omega

end Des
end Kerberos
