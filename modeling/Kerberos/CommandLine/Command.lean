import Kerberos.CommandLine.Grammar
import Kerberos.Size
import Kerberos.Text.Integer

/-!
# Commands

The commands of the tool and how they are read from a command line.
-/

namespace Kerberos
namespace CommandLine

/-- Where the message of a command comes from. -/
inductive Source
  /-- Hexadecimal text on the command line. -/
  | text (hex : String)
  /-- The bytes of a file. -/
  | file (path : String)
  deriving DecidableEq

/-- What the commands for encryption and decryption are given. -/
structure TransformRequest where
  enctype : String
  key : String
  iv : Option String
  source : Source
  deriving DecidableEq

/-- Which key the command for block cipher keys is about. -/
inductive KeyRequest
  | given (hex : String)
  | random
  | missing
  deriving DecidableEq

/-- A command of the tool. -/
inductive Command
  /-- Lists the registered ciphers and hashes. -/
  | providers (json : Bool)
  /-- Derives bytes from a password. -/
  | pbkdf2 (salt : String) (iterations length : Nat)
  /-- Makes a keyed checksum of a message. -/
  | hmac (hash key : String) (source : Source)
  /-- Encrypts a message. -/
  | encrypt (request : TransformRequest)
  /-- Decrypts a message. -/
  | decrypt (request : TransformRequest)
  /-- Makes an authentication code by chaining. -/
  | cbcMac (key : String) (iv : Option String) (source : Source)
  /-- Fixes the parity of a key and checks it, or makes a random one. -/
  | desKey (request : KeyRequest)
  deriving DecidableEq

/-- Where the message of a command comes from, if it has one. -/
def Command.source? : Command → Option Source
  | hmac _ _ source => some source
  | encrypt request => some request.source
  | decrypt request => some request.source
  | cbcMac _ _ source => some source
  | _ => none

/-- A command line that was understood: a command, and the log filter given with it. -/
structure Invocation where
  command : Command
  log : Option String
  deriving DecidableEq

/-! ## Defaults and numbers -/

def defaultIterations : Nat := 4096

def defaultLength : Nat := 16

def defaultHash : String := "SHA1"

/-- Reads a number of iterations: an integer literal from zero up to the largest word of 32 bits. -/
def iterations? (text : String) : Option Nat :=
  match Text.Integer.signed? text.toList with
  | some n => if 0 ≤ n ∧ n < 0x100000000 then some n.toNat else none
  | none => none

/-- Reads a size: an integer literal without a minus sign. -/
def length? (text : String) : Option Nat :=
  (Text.Integer.unsigned? text.toList).bind Size.check?

/-! ## Grammars -/

def anyText : OptionKind :=
  .value fun _ => true

/-- An option that takes a path, which is not empty. -/
def anyPath : OptionKind :=
  .value fun path => !path.isEmpty

/-- The option for the log filter, which stands before or after the subcommand. -/
def logOption : String × OptionKind :=
  ("log", anyText)

def subcommandGrammar (options : List (String × OptionKind)) (operands : Nat) : Grammar :=
  { options := logOption :: options, operands, subcommands := [], hasVersion := false }

def transformOptions : List (String × OptionKind) :=
  [("enctype", anyText), ("key", anyText), ("iv", anyText), ("data-file", anyPath)]

def subcommands : List (String × Grammar) :=
  [("providers", subcommandGrammar [("json", .flag)] 0),
   ("pbkdf2", subcommandGrammar
      [("salt", anyText), ("iterations", .value fun t => (iterations? t).isSome),
       ("length", .value fun t => (length? t).isSome)] 0),
   ("hmac", subcommandGrammar [("hash", anyText), ("key", anyText), ("data-file", anyPath)] 1),
   ("encrypt", subcommandGrammar transformOptions 1),
   ("decrypt", subcommandGrammar transformOptions 1),
   ("cbc-mac", subcommandGrammar [("key", anyText), ("iv", anyText), ("data-file", anyPath)] 1),
   ("des-key", subcommandGrammar [("random", .flag)] 1)]

def helpName : String := "help"

/-- The grammar in front of the subcommand. -/
def topGrammar : Grammar :=
  { options := [logOption]
    operands := 0
    subcommands := helpName :: subcommands.map (·.1)
    hasVersion := true }

/-! ## Reading commands -/

/-- The source of a message: either an operand or a file, and not both. -/
def source? (r : Reading) : Option Source :=
  match r.operands, r.value? "data-file" with
  | [hex], none => some (.text hex)
  | [], some path => some (.file path)
  | _, _ => none

def transformRequest? (r : Reading) : Option TransformRequest := do
  return ⟨← r.value? "enctype", ← r.value? "key", r.value? "iv", ← source? r⟩

/-- The key that is asked about. A command line with nothing on it is refused, and so is one with
both a key and the wish for a random one. -/
def keyRequest? (r : Reading) : Option KeyRequest :=
  match r.operands, r.has "random" with
  | [], true => some .random
  | [hex], false => some (.given hex)
  | [], false => if r.isBlank then none else some .missing
  | _, _ => none

/-- The command of a subcommand whose words have been read. -/
def command? (name : String) (r : Reading) : Option Command :=
  match name with
  | "providers" => some (.providers (r.has "json"))
  | "pbkdf2" => do
    let salt ← r.value? "salt"
    let iterations := ((r.value? "iterations").bind iterations?).getD defaultIterations
    let length := ((r.value? "length").bind length?).getD defaultLength
    return .pbkdf2 salt iterations length
  | "hmac" => do
    return .hmac ((r.value? "hash").getD defaultHash) (← r.value? "key") (← source? r)
  | "encrypt" => (transformRequest? r).map .encrypt
  | "decrypt" => (transformRequest? r).map .decrypt
  | "cbc-mac" => do
    return .cbcMac (← r.value? "key") (r.value? "iv") (← source? r)
  | "des-key" => (keyRequest? r).map .desKey
  | _ => none

/-- Why there is no command on a command line. -/
inductive NoCommand
  /-- Help is asked for, with a subcommand or in general. -/
  | help (topic : Option String)
  | version
  | refused
  deriving DecidableEq

/-- What it means that reading stops among the words of a subcommand, or in front of it. -/
def NoCommand.ofStop (topic : Option String) : Stop → NoCommand
  | .help => help topic
  | .version => version
  | .refused => refused

/-- Reads the words behind a subcommand, or all words with the grammar in front of it. -/
def readWords (topic : Option String) (g : Grammar) (words : List String) :
    Except NoCommand Reading :=
  match g.read {} words with
  | .ok r => .ok r
  | .error stop => .error (.ofStop topic stop)

/-- What the words after the subcommand for help ask for. There is help with each subcommand. -/
def explain (words : List String) : NoCommand :=
  match words with
  | [] => .help none
  | [name] => if topGrammar.subcommands.contains name then .help (some name) else .refused
  | _ => .refused

/-- Reads a command line. A log filter after the subcommand takes the place of one before it. -/
def parse (words : List String) : Except NoCommand Invocation := do
  let top ← readWords none topGrammar words
  match top.subcommand with
  | none => .error .refused
  | some (name, rest) =>
    if name = helpName then .error (explain rest)
    else
      match subcommands.lookup name with
      | none => .error .refused
      | some grammar =>
        let r ← readWords (some name) grammar rest
        match command? name r with
        | none => .error .refused
        | some command => return ⟨command, r.value? "log" <|> top.value? "log"⟩

end CommandLine
end Kerberos
