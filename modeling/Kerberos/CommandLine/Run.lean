import Kerberos.CommandLine.Help
import Kerberos.CommandLine.Input
import Kerberos.Des.Key
import Kerberos.Log.Filter
import Kerberos.Log.Report

/-!
# Running commands

A run is a function of the command line and of its surroundings. It gives the exit code, what is
printed, the report of a failure and the lines of the log. A command line that is not understood
ends with its own code, and so does a breakdown.
-/

namespace Kerberos
namespace CommandLine

/-! ## Commands -/

/-- How a command ends that does not succeed. -/
inductive Ending
  | failure (f : Failure)
  | breakdown
  deriving DecidableEq

/-- What a command leaves: its output, or how it ended without one, and the events it reported. -/
structure Performance where
  output : Except Ending String
  events : List Log.Event

namespace Performance

/-- A command that ends with a failure before anything is reported. -/
def failed (f : Failure) : Performance :=
  ⟨.error (.failure f), []⟩

/-- A command that prints something and reports nothing. -/
def printed (output : String) : Performance :=
  ⟨.ok output, []⟩

/-- Goes on with the value of an input, or fails where there is none. -/
def withInput {α : Type} (input : Except Failure α) (next : α → Performance) : Performance :=
  match input with
  | .error f => failed f
  | .ok a => next a

def after (events : List Log.Event) (p : Performance) : Performance :=
  { p with events := events ++ p.events }

end Performance

open Performance (failed printed withInput after)

def line (text : String) : String :=
  text ++ "\n"

/-- Bytes derived from the password. The output is allocated before anything is computed, and a
length that nothing can have is a breakdown. -/
def performPbkdf2 (w : Surroundings) (salt : String) (iterations length : Nat) : Performance :=
  withInput (readPassword w) fun password =>
    if Size.largestAllocation < length then ⟨.error .breakdown, []⟩
    else
      let r := Pbkdf2.fill (List.replicate length 0) iterations (Text.Utf8.encode password)
        (Text.Utf8.encode salt)
      { events := Log.derived iterations length r.answer
        output :=
          match r.answer with
          | .error e => .error (.failure (.derivationFailed e))
          | .ok () => .ok (line (Text.Hex.encode r.after)) }

/-- A checksum of a message. Any key serves, so its type does not matter. -/
def performHmac (w : Surroundings) (registry : Registry) (hash key : String) (source : Source) :
    Performance :=
  withInput (readHex .key key) fun key =>
    withInput (readSource w source) fun data =>
      let m : Message := [⟨.data, data⟩]
      let sum := registry.makeChecksum hash ⟨.arcfourHmac, key⟩ m
      { events := Log.authenticated hash m sum
        output :=
          match sum with
          | .error .breakdown => .error .breakdown
          | .error (.error e) => .error (.failure (.hmacFailed hash e))
          | .ok sum => .ok (line (Text.Hex.encode sum)) }

/-- The output of a transform: the message and, for a block cipher, the next chaining value. -/
def showTransformed (t : Transformed) : String :=
  line (Text.Hex.encode (Message.dataBytes t.message)) ++
    match t.state.bind CipherState.asIv? with
    | some iv => line ("iv: " ++ Text.Hex.encode iv)
    | none => ""

/-- The state that a transform starts with: the initial value given, or the cipher's own. -/
def startState (enctype : Enctype) (iv : Option String) : Except Failure CipherState :=
  let p := enctype.provider
  match iv with
  | some hex =>
    if p.info.blockSize = 1 then .error (.ivNotTaken enctype.name)
    else (readHex .iv hex).map .iv
  | none =>
    match p.initState with
    | .ok state => .ok state
    | .error e => .error (.notAvailable p.info.name e)

def performTransform (w : Surroundings) (d : Direction) (request : TransformRequest) :
    Performance :=
  match Enctype.parse? request.enctype with
  | none => failed (.unknownEnctype request.enctype)
  | some enctype =>
    let p := enctype.provider
    withInput (readHex .key request.key) fun key =>
      withInput (readSource w request.source) fun data =>
        after (if request.iv.isNone then Log.stateMade p else []) <|
          withInput (startState enctype request.iv) fun state =>
            let m : Message := [⟨.data, data⟩]
            let t := p.transform d ⟨enctype, key⟩ (some state) m
            { events := Log.transformed p d (some state) m t.answer
              output :=
                match t.answer with
                | .error e => .error (.failure (.transformFailed p.info.name e))
                | .ok () => .ok (showTransformed t) }

def performCbcMac (w : Surroundings) (key : String) (iv : Option String) (source : Source) :
    Performance :=
  withInput (readHex .key key) fun key =>
    withInput (iv.mapM (readHex .iv)) fun iv =>
      withInput (readSource w source) fun data =>
        let r := Provider.des.cbcMac ⟨.desCbcCrc, key⟩ [⟨.data, data⟩] iv DesCbc.emptyBlock
        match r.answer with
        | .error e => failed (.macFailed e)
        | .ok () => printed (line (Text.Hex.encode r.after))

def showKey (key : List UInt8) : String :=
  line (Text.Hex.encode key) ++ if Des.isWeak key then line "weak" else ""

def performDesKey (w : Surroundings) (request : KeyRequest) : Performance :=
  match request with
  | .missing => failed .noKey
  | .random =>
    after (Log.keyMade w.random) <|
      match Des.keyOfRandom w.random with
      | .error e => failed (.noRandomKey e)
      | .ok key => printed (showKey key.bytes)
  | .given hex =>
    withInput (readHex .key hex) fun key =>
      if key.length = 8 then printed (showKey (Des.fixParity key)) else failed .wrongKeyLength

def perform (w : Surroundings) (command : Command) : Performance :=
  let registry := Registry.builtin
  match command with
  | .providers json => printed (if json then jsonListing registry else listing registry)
  | .pbkdf2 salt iterations length => performPbkdf2 w salt iterations length
  | .hmac hash key source => performHmac w registry hash key source
  | .encrypt request => performTransform w .encrypt request
  | .decrypt request => performTransform w .decrypt request
  | .cbcMac key iv source => performCbcMac w key iv source
  | .desKey request => performDesKey w request

/-! ## Runs -/

/-- What a run leaves: the exit code, the text on standard output, the report of a failure and the
lines of the log. -/
structure Result where
  code : Nat
  output : String := ""
  report : String := ""
  log : List String := []
  deriving DecidableEq

def versionText : String :=
  line (programName ++ " 0.1.0")

def refusedCode : Nat := 2

def breakdownCode : Nat := 101

/-- The log filter of a run: the one on the command line, else the one in the environment. -/
def logFilter (w : Surroundings) (invocation : Invocation) : Log.Filter :=
  Log.Filter.parse ((invocation.log <|> w.logFilter).getD "")

/-- The result of a command whose log goes through a filter. -/
def conclude (filter : Log.Filter) (p : Performance) : Result :=
  let log := filter.lines p.events
  match p.output with
  | .ok output => { code := 0, output, log }
  | .error (.failure f) => { code := 1, report := f.report, log }
  | .error .breakdown => { code := breakdownCode, log }

def run (w : Surroundings) (words : List String) : Result :=
  match parse words with
  | .error (.help topic) => { code := 0, output := helpText topic }
  | .error .version => { code := 0, output := versionText }
  | .error .refused => { code := refusedCode }
  | .ok invocation => conclude (logFilter w invocation) (perform w invocation.command)

end CommandLine
end Kerberos
