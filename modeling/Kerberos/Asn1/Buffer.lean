import Kerberos.Error
import Kerberos.Size
import Kerberos.Text.Record
import Kerberos.Text.Utf8

/-!
# Encoding buffers

A buffer for building encodings back to front, or for reading them front to back.

A buffer that builds an encoding starts without storage and owns what it allocates. Each insertion
writes its bytes reversed at the cursor, so the content is the encoding read backwards; `toData`
reverses it once more. A buffer that reads wraps bytes given to it. A window on such a buffer
reads the same bytes within narrower limits, and the buffer takes over its cursor afterwards.

Positions count from the start of the storage and satisfy `base ≤ next ≤ limit`.
-/

namespace Kerberos
namespace Asn1

/-- The least number of bytes by which a buffer grows. -/
def increment : Nat := 200

/-- What a buffer stores its bytes in. -/
inductive Storage
  /-- Nothing has been allocated. -/
  | empty
  /-- Room of its own, zero where nothing was written. -/
  | owned (room : List UInt8)
  /-- Bytes to be read only. -/
  | wrapped (data : List UInt8)
  deriving DecidableEq

/-- An encoding buffer: its storage, the position where its content starts, the position after its
last byte, and the cursor. -/
structure Buffer where
  storage : Storage
  base : Nat
  limit : Nat
  next : Nat
  deriving DecidableEq

namespace Storage

def bytes : Storage → List UInt8
  | empty => []
  | owned room => room
  | wrapped data => data

def label : Storage → String
  | empty => "empty"
  | owned _ => "owned"
  | wrapped _ => "wrapped"

end Storage

namespace Buffer

/-! ## Making buffers -/

def new : Buffer :=
  ⟨.empty, 0, 0, 0⟩

def wrap (data : List UInt8) : Buffer :=
  ⟨.wrapped data, 0, data.length, 0⟩

def wrapData (b : Buffer) (data : Option (List UInt8)) : Outcome Error Buffer Unit :=
  match data with
  | some data => ⟨.ok (), wrap data⟩
  | none => ⟨.error .missingField, b⟩

/-! ## Views -/

def isWrapped (b : Buffer) : Bool :=
  match b.storage with
  | .wrapped _ => true
  | _ => false

def hasStorage (b : Buffer) : Bool :=
  match b.storage with
  | .empty => false
  | _ => true

/-- The number of bytes between the cursor and the end. -/
def remaining (b : Buffer) : Nat :=
  if b.hasStorage then b.limit - b.next else 0

/-- The number of bytes written or read. -/
def length (b : Buffer) : Nat :=
  b.next - b.base

def isEmpty (b : Buffer) : Bool :=
  b.length == 0

def slice (b : Buffer) (i n : Nat) : List UInt8 :=
  (b.storage.bytes.drop i).take n

/-- The bytes written or read, as they are stored. -/
def raw (b : Buffer) : List UInt8 :=
  b.slice b.base b.length

/-- The encoding: the bytes written in logical order. -/
def toData (b : Buffer) : List UInt8 :=
  b.raw.reverse

/-- The buffer in diagnostic output, which shows no content. -/
def describe (b : Buffer) : String :=
  Text.Record.describe "Asn1Buf"
    [⟨"storage", .text b.storage.label⟩, ⟨"base", .number b.base⟩, ⟨"end", .number b.limit⟩,
     ⟨"next", .number b.next⟩]

/-! ## Inserting -/

/-- Makes the storage larger by `missing` bytes, and by `increment` at least. -/
def expand (b : Buffer) (missing : Nat) : Outcome Error Buffer Unit :=
  match b.storage with
  | .wrapped _ => ⟨.error .overrun, b⟩
  | .empty => grow [] 0
  | .owned room => grow room b.limit
where
  grow (room : List UInt8) (size : Nat) : Outcome Error Buffer Unit :=
    let added := max missing increment
    if Size.largestAllocation < size + added then ⟨.error .outOfMemory, b⟩
    else
      ⟨.ok (), { b with
        storage := .owned (room.take size ++ List.replicate added 0), limit := size + added }⟩

/-- Makes room for `n` bytes after the cursor. -/
def reserve (b : Buffer) (n : Nat) : Outcome Error Buffer Unit :=
  if b.remaining < n then b.expand (n - b.remaining) else ⟨.ok (), b⟩

/-- Writes `bytes` reversed at the cursor of a buffer that has room for them. A buffer without
storage has room for nothing and stays as it is. -/
def place (b : Buffer) (bytes : List UInt8) : Buffer :=
  match b.storage with
  | .owned room =>
    { b with
      storage := .owned
        (room.take b.next ++ bytes.reverse ++ room.drop (b.next + bytes.length))
      next := b.next + bytes.length }
  | _ => b

def insert (b : Buffer) (bytes : List UInt8) : Outcome Error Buffer Unit :=
  if b.isWrapped then ⟨.error .overrun, b⟩
  else
    match b.reserve bytes.length with
    | ⟨.error e, b'⟩ => ⟨.error e, b'⟩
    | ⟨.ok (), b'⟩ => ⟨.ok (), b'.place bytes⟩

def insertOctet (b : Buffer) (octet : UInt8) : Outcome Error Buffer Unit :=
  b.insert [octet]

def insertOctets (b : Buffer) (octets : List UInt8) : Outcome Error Buffer Unit :=
  b.insert octets

/-- Puts the UTF-8 bytes of a text in front of the encoding. -/
def insertText (b : Buffer) (text : String) : Outcome Error Buffer Unit :=
  b.insert (Text.Utf8.encode text)

/-! ## Removing -/

/-- Reads `n` bytes at the cursor and moves it past them. -/
def removeOctets (b : Buffer) (n : Nat) : Outcome Error Buffer (List UInt8) :=
  if b.remaining < n then ⟨.error .overrun, b⟩
  else ⟨.ok (b.slice b.next n), { b with next := b.next + n }⟩

def removeOctet (b : Buffer) : Outcome Error Buffer UInt8 :=
  match b.removeOctets 1 with
  | ⟨.error e, b'⟩ => ⟨.error e, b'⟩
  | ⟨.ok octets, b'⟩ => ⟨.ok (octets.headD 0), b'⟩

/-- Reads `n` bytes at the cursor as UTF-8. The cursor goes back where it was if they are not. -/
def removeText (b : Buffer) (n : Nat) : Outcome Error Buffer String :=
  match b.removeOctets n with
  | ⟨.error e, b'⟩ => ⟨.error e, b'⟩
  | ⟨.ok octets, b'⟩ =>
    match Text.Utf8.decode? octets with
    | some text => ⟨.ok text, b'⟩
    | none => ⟨.error .badFormat, { b' with next := b.next }⟩

/-! ## Windows -/

/-- A window on the next `n` bytes of a buffer that reads. The buffer itself stays where it is. -/
def window (b : Buffer) (n : Nat) : Except Error Buffer :=
  match b.storage with
  | .wrapped data =>
    if b.limit < b.next + n then .error .overrun
    else .ok ⟨.wrapped data, b.next, b.next + n, b.next⟩
  | _ => .error .missingField

/-- Moves the cursor to where that of another buffer stands, as far as the limits allow. -/
def sync (b other : Buffer) : Buffer :=
  { b with next := max b.base (min other.next b.limit) }

end Buffer
end Asn1
end Kerberos
