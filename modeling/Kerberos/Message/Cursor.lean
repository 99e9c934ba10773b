import Kerberos.Message

/-!
# Walking the data of a message

A cursor is a place among the data bytes of a message: a segment and an offset in it. Reading and
writing start at a cursor, pass from one data segment to the next and skip all others, so that
blocks of any size can be taken from a message and put back without joining its segments. The
cursor that a walk leaves rests where its last byte was found, which may be the end of a segment.

A cursor that was left over from another message can point beyond the data segment it is used on.
Such a walk has no result.
-/

namespace Kerberos

/-- A place in a message: the number of a segment and an offset in it. -/
structure Cursor where
  segment : Nat := 0
  offset : Nat := 0
  deriving DecidableEq

namespace Cursor

/-- The same place in a message with `n` more segments in front. -/
def shift (n : Nat) (c : Cursor) : Cursor :=
  { c with segment := n + c.segment }

end Cursor

namespace Message

/-! ## Walks from the first segment -/

/-- Takes up to `count` data bytes, from `offset` in the first data segment on. The cursor tells
where the walk ended; it is past the last segment if there were too few bytes. -/
def gather : Message → (offset count : Nat) → Option (List UInt8 × Cursor)
  | [], offset, _ => some ([], ⟨0, offset⟩)
  | s :: rest, offset, count =>
    if s.role.isEncrypted then
      if s.bytes.length < offset then none
      else
        let found := (s.bytes.drop offset).take count
        if found.length = count then some (found, ⟨0, offset + count⟩)
        else
          (gather rest 0 (count - found.length)).map fun (more, c) => (found ++ more, c.shift 1)
    else (gather rest offset count).map fun (more, c) => (more, c.shift 1)

/-- Replaces the bytes of a list from `offset` on, as far as the list reaches. -/
def overwrite (bytes : List UInt8) (offset : Nat) (new : List UInt8) : List UInt8 :=
  bytes.take offset ++ (new.take (bytes.length - offset) ++ bytes.drop (offset + new.length))

/-- Puts `new` over the data bytes, from `offset` in the first data segment on. Bytes for which
there is no room are dropped. -/
def scatter : Message → (offset : Nat) → (new : List UInt8) → Option (Message × Cursor)
  | [], offset, _ => some ([], ⟨0, offset⟩)
  | s :: rest, offset, new =>
    if s.role.isEncrypted then
      if s.bytes.length < offset then none
      else
        let room := s.bytes.length - offset
        let s' : Segment := { s with bytes := overwrite s.bytes offset new }
        if new.length ≤ room then some (s' :: rest, ⟨0, offset + new.length⟩)
        else (scatter rest 0 (new.drop room)).map fun (rest', c) => (s' :: rest', c.shift 1)
    else (scatter rest offset new).map fun (rest', c) => (s :: rest', c.shift 1)

/-! ## Blocks -/

/-- What reading a block gives: whether the block is full, its bytes, and the place after it. -/
structure BlockRead where
  full : Bool
  block : List UInt8
  cursor : Cursor
  deriving DecidableEq

/-- Reads the data bytes at a cursor over `block`, whose length says how many are wanted. If the
data ends within the block, the rest of it is zero; if no byte is left, the block stays as it is.
An empty block is never full. -/
def readBlock (m : Message) (c : Cursor) (block : List UInt8) : Option BlockRead :=
  (gather (m.drop c.segment) c.offset block.length).map fun (found, c') =>
    { full := found.length == block.length && !block.isEmpty
      block :=
        if found.isEmpty then block
        else found ++ List.replicate (block.length - found.length) 0
      cursor := c'.shift c.segment }

def writeBlock (m : Message) (c : Cursor) (block : List UInt8) : Option (Message × Cursor) :=
  (scatter (m.drop c.segment) c.offset block).map fun (rest, c') =>
    (m.take c.segment ++ rest, c'.shift c.segment)

end Message
end Kerberos
