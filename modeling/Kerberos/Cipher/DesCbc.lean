import Kerberos.Cipher.Chaining
import Kerberos.Cipher.Transform
import Kerberos.Des.Block
import Kerberos.Message.Cursor

/-!
# The block cipher in chaining mode

Messages are transformed in place, block after block: one cursor reads a block across the
boundaries of segments, another one writes the result back over the bytes it was read from. The
chaining value starts as the one in the state, or as zeros, and the state takes over the last one:
the last encrypted block, which is the output of encryption and the input of decryption.
-/

namespace Kerberos
namespace DesCbc

open Des (Block)

def info : CipherInfo :=
  ⟨"des-cbc", Des.blockSize, 7, 8⟩

/-- The chaining value in a state. A state of another cipher is refused. -/
def chainingValue : Option CipherState → Except Error (Option (List UInt8))
  | none => .ok none
  | some (.iv bytes) => .ok (some bytes)
  | some (.arcfour _) => .error .internal

def startBlock (iv : Option (List UInt8)) : Block :=
  Des.ofBytes (iv.getD [])

def emptyBlock : List UInt8 :=
  List.replicate Des.blockSize 0

/-! ## Transforms in place -/

/-- A transform under way: the message, the places where the next block is read and written, the
buffer that blocks are read into, and the chaining value. -/
structure Walk where
  message : Message
  input : Cursor
  output : Cursor
  buffer : List UInt8
  chain : Block

namespace Walk

def start (m : Message) (iv : Option (List UInt8)) : Walk :=
  ⟨m, {}, {}, emptyBlock, startBlock iv⟩

/-- Reads the next block and, if it is full, transforms it and writes the result. Says whether it
was full. -/
def step (transform : Block → Block → Block × Block) (w : Walk) : Bool × Walk :=
  match w.message.readBlock w.input w.buffer with
  | none => (false, w)
  | some r =>
    if r.full then
      let (out, chain) := transform w.chain (Des.ofBytes r.block)
      match w.message.writeBlock w.output (Des.toBytes out) with
      | none => (false, w)
      | some (message, output) =>
        (true, { message, input := r.cursor, output, buffer := r.block, chain })
    else (false, { w with input := r.cursor, buffer := r.block })

/-- Transforms blocks as long as full ones are read. At most `limit` reads are made. -/
def run (transform : Block → Block → Block × Block) : (limit : Nat) → Walk → Walk
  | 0, w => w
  | limit + 1, w =>
    let (full, w') := w.step transform
    if full then run transform limit w' else w'

/-- The bytes that a state takes over after a transform: what encryption wrote last, or what
decryption read last. -/
def lastBlock (d : Direction) (w : Walk) : List UInt8 :=
  match d with
  | .encrypt => Des.toBytes w.chain
  | .decrypt => w.buffer

end Walk

/-- What happens to a block in each direction, with the round keys of a key. -/
def blockTransform (d : Direction) (keys : List (BitVec 48)) : Block → Block → Block × Block :=
  match d with
  | .encrypt => Chaining.encryptStep (Des.crypt keys)
  | .decrypt => Chaining.decryptStep (Des.crypt keys.reverse)

def blockCount (m : Message) : Nat :=
  m.dataLength / Des.blockSize

/-- Transforms all blocks of a message. The read after the last block finds no full one and ends
the run. -/
def runAll (d : Direction) (key : Key) (iv : Option (List UInt8)) (m : Message) : Walk :=
  let keys := Des.schedule (Des.ofBytes key.bytes)
  (Walk.start m iv).run (blockTransform d keys) (blockCount m + 1)

def transform (d : Direction) (key : Key) (state : Option CipherState) (m : Message) :
    Transformed :=
  match chainingValue state with
  | .error e => .refused e m state
  | .ok iv =>
    match info.accept key iv m with
    | .error e => .refused e m state
    | .ok false => ⟨.ok (), m, state⟩
    | .ok true =>
      let w := runAll d key iv m
      ⟨.ok (), w.message, state.map fun _ => .iv (w.lastBlock d)⟩

/-! ## Authentication codes -/

/-- The chaining value after the next `n` blocks, which are only read. -/
def macRun (cipher : Block → Block) (m : Message) : Nat → Cursor → Block → Block
  | 0, _, chain => chain
  | n + 1, c, chain =>
    match m.readBlock c emptyBlock with
    | none => chain
    | some r =>
      if r.full then macRun cipher m n r.cursor (cipher (Des.ofBytes r.block ^^^ chain))
      else chain

/-- Writes the authentication code of the data of a message into an output of one block. Without
data there is no code: the call succeeds, and the output, whatever its length, stays as it is. -/
def mac (key : Key) (m : Message) (iv : Option (List UInt8)) (output : List UInt8) :
    Outcome Error (List UInt8) Unit :=
  match info.accept key iv m with
  | .error e => ⟨.error e, output⟩
  | .ok false => ⟨.ok (), output⟩
  | .ok true =>
    if output.length ≠ Des.blockSize then ⟨.error .badMessageSize, output⟩
    else
      let keys := Des.schedule (Des.ofBytes key.bytes)
      ⟨.ok (), Des.toBytes (macRun (Des.crypt keys) m (blockCount m) {} (startBlock iv))⟩

/-- The state of a new conversation: a chaining value of zeros. -/
def freshState : CipherState :=
  .iv emptyBlock

end DesCbc
end Kerberos
