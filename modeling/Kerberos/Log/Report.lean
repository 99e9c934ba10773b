import Kerberos.Cipher.Provider
import Kerberos.Des.Key
import Kerberos.Hmac
import Kerberos.Log.Event
import Kerberos.Pbkdf2

/-!
# What operations report

The events that the operations of the library report, as functions of what an operation was given
and of how it ended. An operation that fails reports nothing, unless it is not available at all.
-/

namespace Kerberos
namespace Log

/-! ## Ciphers -/

/-- The report of a Camellia provider: the operation is not available. -/
def unavailable (p : Provider) (operation : String) : List Event :=
  [{ level := .warn
     target := "k5core::crypto::enc_provider::camellia"
     message := "camellia is not implemented"
     fields := [⟨"provider", .text p.info.name⟩, ⟨"op", .text operation⟩] }]

/-- The report of the block cipher. A message without data is not worth a report. -/
def blocksTransformed (d : Direction) (m : Message) : List Event :=
  if m.dataLength = 0 then []
  else
    [{ level := .debug
       target := "k5core::crypto::enc_provider::des"
       message := d.verb ++ "ed"
       fields := [⟨"provider", .text DesCbc.info.name⟩, ⟨"blocks", .number (DesCbc.blockCount m)⟩] }]

/-- The report of the stream cipher: whether the state got its key, and how far it processed. -/
def streamTransformed (state : Option CipherState) (m : Message) : List Event :=
  let keying : List Event :=
    match state with
    | some (.arcfour .uninitialized) =>
      [{ level := .trace
         target := "k5core::crypto::enc_provider::rc4"
         message := "keying arcfour state on first use"
         fields := [] }]
    | _ => []
  keying ++
    [{ level := .debug
       target := "k5core::crypto::enc_provider::rc4"
       message := "applied keystream"
       fields :=
        [⟨"provider", .text ArcfourStream.info.name⟩,
         ⟨"bytes", .number (ArcfourStream.processedLength m)⟩] }]

/-- The report of a transform of the message `m` with the state before it. -/
def transformed (p : Provider) (d : Direction) (state : Option CipherState) (m : Message)
    (answer : Except Error Unit) : List Event :=
  match p, answer with
  | .camellia128, _ => unavailable p d.verb
  | .camellia256, _ => unavailable p d.verb
  | .des, .ok () => blocksTransformed d m
  | .arcfour, .ok () => streamTransformed state m
  | _, .error _ => []

def stateMade : Provider → List Event
  | .camellia128 => unavailable .camellia128 "init_state"
  | .camellia256 => unavailable .camellia256 "init_state"
  | _ => []

/-! ## Codes and keys -/

def authenticated {α : Type} (hash : String) (m : Message) (answer : Except Fault α) :
    List Event :=
  match answer with
  | .error _ => []
  | .ok _ =>
    [{ level := .debug
       target := "k5core::crypto::hmac"
       message := "computed hmac"
       fields := [⟨"hash", .text hash⟩, ⟨"segments", .number m.length⟩] }]

def derived (count length : Nat) (answer : Except Error Unit) : List Event :=
  match answer with
  | .error _ => []
  | .ok _ =>
    [{ level := .debug
       target := "k5core::crypto::kdf"
       message := "derived pbkdf2 key"
       fields := [⟨"iterations", .number count⟩, ⟨"len", .number length⟩] }]

def keyMade (random : List UInt8) : List Event :=
  if random.length = Des.randomSize ∧ Des.isWeak (Des.spread random) then
    [{ level := .trace
       target := "k5core::crypto::des_keys"
       message := "random DES key was weak, adjusting"
       fields := [] }]
  else []

end Log
end Kerberos
