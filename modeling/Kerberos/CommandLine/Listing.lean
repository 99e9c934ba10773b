import Kerberos.Registry

/-!
# Listings of a registry

The ciphers and hashes of a registry as two tables with aligned columns, or as one JSON object.
-/

namespace Kerberos
namespace CommandLine

/-- How a column is filled up to its width. -/
inductive Align
  | left
  | right

def pad (align : Align) (width : Nat) (text : String) : String :=
  let blanks := String.ofList (List.replicate (width - text.length) ' ')
  match align with
  | .left => text ++ blanks
  | .right => blanks ++ text

/-- The columns of the tables: one for names and one for each size. -/
def columns : List (Align × Nat) :=
  [(.left, 12), (.right, 5), (.right, 9), (.right, 10)]

/-- A row of a table, which may use fewer than all columns. -/
def tableRow (cells : List String) : String :=
  "  ".intercalate ((columns.zip cells).map fun (c, text) => pad c.1 c.2 text) ++ "\n"

def cipherRow (name : String) (p : Provider) : String :=
  tableRow
    [name, Nat.repr p.info.blockSize, Nat.repr p.info.keyBytes, Nat.repr p.info.keyLength]

def hashRow (h : HashInfo) : String :=
  tableRow [h.name, Nat.repr h.size, Nat.repr h.blockSize]

def listing (r : Registry) : String :=
  tableRow ["Cipher", "Block", "KeyBytes", "KeyLength"] ++
    String.join (r.ciphers.entries.map fun e => cipherRow e.1 e.2) ++ "\n" ++
    tableRow ["Hash", "Size", "BlockSize"] ++ String.join (r.hashes.values.map hashRow)

def jsonListing (r : Registry) : String :=
  Text.Record.jsonObject 0
    [("enc", Text.Record.jsonArray 1 (r.ciphers.values.map fun p => p.info.fields)),
     ("hash", Text.Record.jsonArray 1 (r.hashes.values.map HashInfo.fields))] ++ "\n"

end CommandLine
end Kerberos
