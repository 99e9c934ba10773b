import Kerberos.CommandLine.Command
import Kerberos.CommandLine.Listing

/-!
# Help

The page that explains the tool, and a page for each subcommand. A page says what something is for,
how it is called, and which subcommands, operands and options may follow. The explanations of a
section stand in one column behind its longest entry.
-/

namespace Kerberos
namespace CommandLine

/-- An option as a page shows it. -/
structure OptionEntry where
  name : String
  letter : Option Char := none
  /-- What stands for the value, if the option takes one. -/
  value : Option String := none
  required : Bool := false
  explanation : String := ""

namespace OptionEntry

/-- The option as it is written on a command line. -/
def call (o : OptionEntry) : String :=
  "--" ++ o.name ++
    match o.value with
    | some value => " <" ++ value ++ ">"
    | none => ""

/-- The entry of the option with its explanation. Without a letter, its place stays empty. -/
def row (o : OptionEntry) : String × String :=
  let front :=
    match o.letter with
    | some letter => "-" ++ String.singleton letter ++ ", "
    | none => "    "
  (front ++ o.call, o.explanation)

end OptionEntry

/-- What is said on a page: of subcommands and operands, the name and the explanation. -/
structure Page where
  purpose : String
  commands : List (String × String) := []
  operands : List (String × String) := []
  options : List OptionEntry := []

namespace Page

/-- A section of a page, with a blank line in front of it. Nothing is shown of an empty one. -/
def sectionLines (title : String) (rows : List (String × String)) : List String :=
  -- without explanation an entry is filled up all the same
  let width := (rows.map (·.1.length)).foldl max 0
  match rows with
  | [] => []
  | _ =>
    "" :: (title ++ ":") ::
      rows.map fun (entry, explanation) => "  " ++ pad .left width entry ++ "  " ++ explanation

/-- How the command is called that a page is about. -/
def usage (p : Page) (command : String) : String :=
  " ".intercalate <|
    ["Usage:", command] ++ (if p.options.isEmpty then [] else ["[OPTIONS]"]) ++
      (p.options.filter (·.required)).map (·.call) ++
      (if p.commands.isEmpty then [] else ["<COMMAND>"]) ++ p.operands.map (·.1)

def lines (p : Page) (command : String) : List String :=
  [p.purpose, "", p.usage command] ++ sectionLines "Commands" p.commands ++
    sectionLines "Arguments" p.operands ++ sectionLines "Options" (p.options.map (·.row))

def text (p : Page) (command : String) : String :=
  String.join ((p.lines command).map (· ++ "\n"))

end Page

/-! ## The pages of the tool -/

def logEntry : OptionEntry :=
  { name := "log", value := some "FILTER"
    explanation := "Log filter directives; overrides K5CORE_LOG" }

def helpEntry : OptionEntry :=
  { name := "help", letter := some 'h', explanation := "Print help" }

def versionEntry : OptionEntry :=
  { name := "version", letter := some 'V', explanation := "Print version" }

def keyEntry : OptionEntry :=
  { name := "key", value := some "KEY", required := true, explanation := "Key as hex" }

def ivEntry (explanation : String) : OptionEntry :=
  { name := "iv", value := some "IV", explanation }

def dataFileEntry : OptionEntry :=
  { name := "data-file", value := some "PATH"
    explanation := "Read raw message bytes from a file" }

def dataOperand : String × String :=
  ("[DATA]", "Message bytes as hex")

/-- The page of encryption or decryption. -/
def transformPage (purpose : String) : Page :=
  { purpose
    operands := [dataOperand]
    options :=
      [{ name := "enctype", value := some "ENCTYPE", required := true
         explanation := "Enctype name (e.g. des-cbc-crc, arcfour-hmac) or number" },
       logEntry, keyEntry, ivEntry "Initial chaining value as hex (block ciphers only)",
       dataFileEntry, helpEntry] }

/-- The pages of the subcommands. Options stand in the order in which a subcommand declares them;
among those that come first in their declarations, as the log filter does, names decide. -/
def subcommandPages : List (String × Page) :=
  [("providers",
      { purpose := "Lists registered encryption and hash providers"
        options := [{ name := "json", explanation := "Print as JSON" }, logEntry, helpEntry] }),
   ("pbkdf2",
      { purpose := "Derives a key from the password with PBKDF2-HMAC-SHA1"
        options :=
          [logEntry,
           { name := "salt", value := some "SALT", required := true
             explanation := "Salt as text" },
           { name := "iterations", value := some "ITERATIONS"
             explanation := "[default: " ++ Nat.repr defaultIterations ++ "]" },
           { name := "length", value := some "LENGTH"
             explanation :=
               "Output length in bytes [default: " ++ Nat.repr defaultLength ++ "]" },
           helpEntry] }),
   ("hmac",
      { purpose := "Computes an HMAC over the message"
        operands := [dataOperand]
        options :=
          [{ name := "hash", value := some "HASH"
             explanation := "[default: " ++ defaultHash ++ "]" },
           logEntry, keyEntry, dataFileEntry, helpEntry] }),
   ("encrypt", transformPage "Encrypts the message in place"),
   ("decrypt", transformPage "Decrypts the message in place"),
   ("cbc-mac",
      { purpose := "Computes a DES CBC-MAC"
        operands := [dataOperand]
        options :=
          [keyEntry, logEntry, ivEntry "Initial chaining value as hex", dataFileEntry,
           helpEntry] }),
   ("des-key",
      { purpose := "Fixes DES key parity and checks for weak keys, or makes a random key"
        operands := [("[KEY]", "Key as hex")]
        options := [logEntry, { name := "random" }, helpEntry] }),
   (helpName,
      { purpose := "Print this message or the help of the given subcommand(s)"
        operands := [("[COMMAND]...", "Print help for the subcommand(s)")] })]

def topPage : Page :=
  { purpose := "Kerberos crypto core: providers, HMAC, PBKDF2 and DES key tools."
    commands := subcommandPages.map fun e => (e.1, e.2.purpose)
    options := [logEntry, helpEntry, versionEntry] }

def programName : String := "k5core"

/-- The page about a subcommand, or about the tool. -/
def helpText : Option String → String
  | none => topPage.text programName
  | some name =>
    match subcommandPages.lookup name with
    | some page => page.text (programName ++ " " ++ name)
    | none => topPage.text programName

end CommandLine
end Kerberos
