import Kerberos.Asn1.Buffer
import Kerberos.Text.Hex

/-!
# Content of encoding buffers for people

Two forms of the encoding in a buffer: as text, with malformed parts replaced, and as pairs of
hexadecimal digits. A buffer that is missing and one without storage have marks of their own.
-/

namespace Kerberos
namespace Asn1

def nullMark : String := "<NULL>"

def emptyMark : String := "<EMPTY>"

/-- Shows the encoding in a buffer by `form`, or the mark for what it lacks. -/
def render (form : List UInt8 → String) : Option Buffer → String
  | none => nullMark
  | some b => if b.hasStorage then form b.toData else emptyMark

def renderText : Option Buffer → String :=
  render Text.Utf8.decodeReplacing

def renderHex : Option Buffer → String :=
  render Text.Hex.encodeSpaced

end Asn1
end Kerberos
