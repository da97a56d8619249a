import ScanRules.Decimal.Shortest
import ScanRules.Flags
import ScanRules.Text.Bytes
import ScanRules.Text.Quoted

/-!
# Faults of JSON texts

- `Json.Scalar`, `Json.Found`: what a text holds at some place.
- `Json.FaultKind`: what is wrong, with `Json.FaultKind.message`.
- `Json.Fault`: what is wrong and where. A place is given by the number of bytes that are left; that
  is what readers know.
- `Json.Fault.report`: the wording, with line and column. Lines count from one, and columns count
  the bytes in front.
-/

namespace ScanRules.Json

/-- A value without parts. -/
inductive Scalar where
  | null
  | boolean (value : Bool)
  | integer (value : Int)
  | fraction (negative : Bool) (size : Binary64)
  | text (value : String)
  deriving DecidableEq, Repr

/-- What has been found instead of what is expected. -/
inductive Found where
  | scalar (value : Scalar)
  | list
  | object
  deriving DecidableEq, Repr

/-- The value in words. -/
def Scalar.display : Scalar → String
  | null => "null"
  | boolean value => s!"boolean `{value}`"
  | integer value => s!"integer `{value}`"
  | fraction negative size =>
    let sign := if negative then "-" else ""
    s!"floating point `{sign}{size.shortest.display}`"
  | text value => "string " ++ quote value

/-- What has been found, in words. -/
def Found.display : Found → String
  | scalar value => value.display
  | list => "sequence"
  | object => "map"

/-- What is wrong with a text. -/
inductive FaultKind where
  | endInList
  | endInObject
  | endInText
  | endInValue
  | wantColon
  | wantListEnd
  | wantObjectEnd
  | wantWord
  | wantValue
  | wantKey
  | badEscape
  | badNumber
  | hugeNumber
  | controlCharacter
  | loneSurrogate
  | cutSurrogate
  | trailingComma
  | trailingText
  | wrongKind (found : Found) (expected : String)
  | wrongValue (found : Found) (expected : String)
  | wrongLength (length : Nat) (expected : String)
  | missingField (name : String)
  | repeatedField (name : String)
  | badFlags (fault : Flags.TextFault)
  deriving DecidableEq, Repr

/-- The wording of a fault, without its place. -/
def FaultKind.message : FaultKind → String
  | endInList => "EOF while parsing a list"
  | endInObject => "EOF while parsing an object"
  | endInText => "EOF while parsing a string"
  | endInValue => "EOF while parsing a value"
  | wantColon => "expected `:`"
  | wantListEnd => "expected `,` or `]`"
  | wantObjectEnd => "expected `,` or `\x7d`"
  | wantWord => "expected ident"
  | wantValue => "expected value"
  | wantKey => "key must be a string"
  | badEscape => "invalid escape"
  | badNumber => "invalid number"
  | hugeNumber => "number out of range"
  | controlCharacter => "control character (\\u0000-\\u001F) found while parsing a string"
  | loneSurrogate => "lone leading surrogate in hex escape"
  | cutSurrogate => "unexpected end of hex escape"
  | trailingComma => "trailing comma"
  | trailingText => "trailing characters"
  | wrongKind found expected => s!"invalid type: {found.display}, expected {expected}"
  | wrongValue found expected => s!"invalid value: {found.display}, expected {expected}"
  | wrongLength length expected => s!"invalid length {length}, expected {expected}"
  | missingField name => s!"missing field `{name}`"
  | repeatedField name => s!"duplicate field `{name}`"
  | badFlags fault => fault.message

/-- What is wrong, and how many bytes are left at the place where it shows. -/
structure Fault where
  kind : FaultKind
  left : Nat
  deriving DecidableEq, Repr

namespace Fault

/-- A fault at the start of the rest of a text. -/
def here (kind : FaultKind) (rest : List Char) : Fault := ⟨kind, byteSize rest⟩

/-- A fault that lies one byte into the rest of a text, or at its end if there is none left. -/
def onNext (kind : FaultKind) (rest : List Char) : Fault := ⟨kind, byteSize rest - 1⟩

/-- The line of the place after so many bytes of a text, and the number of bytes in front of it on
that line. -/
def place (line column : Nat) : List Char → (bytes : Nat) → Nat × Nat
  | [], _ => (line, column)
  | c :: rest, bytes =>
    if bytes < c.utf8Size then (line, column + bytes)
    else if c = '\n' then place (line + 1) 0 rest (bytes - 1)
    else place line (column + c.utf8Size) rest (bytes - c.utf8Size)

/-- The wording of a fault in a text. -/
def report (text : List Char) (f : Fault) : String :=
  let (line, column) := place 1 0 text (byteSize text - f.left)
  s!"{f.kind.message} at line {line} column {column}"

end Fault

end ScanRules.Json
