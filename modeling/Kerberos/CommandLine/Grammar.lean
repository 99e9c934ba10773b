/-!
# The grammar of command lines

A command line is a list of words. A grammar says which options a command knows, how many
operands it takes and which subcommands may follow. Reading goes from left to right and stops at
the first word that does not fit, at a request for help or for the version, and at a subcommand,
whose words are read with a grammar of their own.

An option stands as `--name value` or as `--name=value`; only the second form takes a value that
starts with a hyphen. A single hyphen is an ordinary word, and after `--` every word is an operand.
-/

namespace Kerberos
namespace CommandLine

/-! ## Words -/

/-- What a word is by its form alone. -/
inductive Word
  /-- The word after which all words are operands. -/
  | separator
  /-- An option by its long name, with the value that is attached to it. -/
  | long (name : String) (value : Option String)
  /-- Options by their letters, of which there is at least one. -/
  | short (first : Char)
  /-- An operand, a subcommand or the value of an option. -/
  | plain (text : String)
  deriving DecidableEq

/-- The characters of an option without its hyphens: its name, and the value attached to it. -/
def splitOption (cs : List Char) : String × Option String :=
  let name := String.ofList (cs.takeWhile (· ≠ '='))
  match cs.dropWhile (· ≠ '=') with
  | [] => (name, none)
  | _ :: value => (name, some (String.ofList value))

def Word.ofText (text : String) : Word :=
  match text.toList with
  | ['-', '-'] => .separator
  | '-' :: '-' :: cs =>
    let (name, value) := splitOption cs
    .long name value
  | '-' :: c :: _ => .short c
  | _ => .plain text

/-! ## Grammars -/

/-- What an option takes. -/
inductive OptionKind
  /-- Nothing: the option is there or not. -/
  | flag
  /-- A value that passes a test. -/
  | value (accepts : String → Bool)

/-- What a command knows. -/
structure Grammar where
  /-- The options by name. -/
  options : List (String × OptionKind)
  /-- The greatest number of operands. -/
  operands : Nat
  /-- The names of the subcommands. -/
  subcommands : List String
  /-- Whether the version can be asked for. -/
  hasVersion : Bool

/-- Why reading stops before the end. -/
inductive Stop
  | help
  | version
  | refused
  deriving DecidableEq

/-- What has been read: options with their values (empty for a flag), operands, and the
subcommand with the words after it. -/
structure Reading where
  options : List (String × String) := []
  operands : List String := []
  subcommand : Option (String × List String) := none
  deriving DecidableEq

namespace Reading

def has (r : Reading) (name : String) : Bool :=
  r.options.any (·.1 == name)

def value? (r : Reading) (name : String) : Option String :=
  (r.options.find? (·.1 == name)).map (·.2)

def withOption (r : Reading) (name value : String) : Reading :=
  { r with options := r.options ++ [(name, value)] }

def withOperand (r : Reading) (text : String) : Reading :=
  { r with operands := r.operands ++ [text] }

def isBlank (r : Reading) : Bool :=
  r.options.isEmpty && r.operands.isEmpty

end Reading

namespace Grammar

def kind? (g : Grammar) (name : String) : Option OptionKind :=
  (g.options.find? (·.1 == name)).map (·.2)

def readOperand (g : Grammar) (r : Reading) (text : String) : Except Stop Reading :=
  if r.operands.length < g.operands then .ok (r.withOperand text) else .error .refused

def readOperands (g : Grammar) (r : Reading) (texts : List String) : Except Stop Reading :=
  texts.foldlM g.readOperand r

/-- Reads an option. It may be given once, and its value must pass the test. -/
def readOption (r : Reading) (name value : String) (accepts : String → Bool) :
    Except Stop Reading :=
  if !r.has name && accepts value then .ok (r.withOption name value) else .error .refused

def readShort (g : Grammar) (c : Char) : Stop :=
  if c = 'h' then .help else if c = 'V' ∧ g.hasVersion then .version else .refused

/-- Reads a long option that the grammar does not list. -/
def readBuiltin (g : Grammar) (name : String) (value : Option String) : Stop :=
  match value with
  | some _ => .refused
  | none =>
    if name = "help" then .help else if name = "version" ∧ g.hasVersion then .version else .refused

def read (g : Grammar) (r : Reading) : List String → Except Stop Reading
  | [] => .ok r
  | word :: rest =>
    match Word.ofText word with
    | .separator => g.readOperands r rest
    | .short c => .error (g.readShort c)
    | .plain text =>
      if g.subcommands.contains text then .ok { r with subcommand := some (text, rest) }
      else do g.read (← g.readOperand r text) rest
    | .long name attached =>
      match g.kind? name, attached with
      | none, _ => .error (g.readBuiltin name attached)
      | some .flag, some _ => .error .refused
      | some .flag, none => do g.read (← readOption r name "" fun _ => true) rest
      | some (.value accepts), some value => do g.read (← readOption r name value accepts) rest
      | some (.value accepts), none =>
        match rest with
        | [] => .error .refused
        | next :: rest' =>
          match Word.ofText next with
          | .plain value => do g.read (← readOption r name value accepts) rest'
          | _ => .error .refused

end Grammar
end CommandLine
end Kerberos
