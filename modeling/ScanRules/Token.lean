import ScanRules.Position
import ScanRules.Span
import ScanRules.Text.Escaped

/-!
# Tokens

- `Token`: the name of the rule that matched, the text that it matched, and where that text starts.
- `Token.span`: the bytes of the text.
- `Token.display`: name and text between quotes, the text escaped.
-/

namespace ScanRules

/-- A piece of a text with the name of its rule. -/
structure Token where
  name : String
  text : String
  position : Position
  deriving DecidableEq, Repr

namespace Token

/-- The bytes that the token takes up. -/
def span (t : Token) : Span :=
  ⟨t.position.offset, t.position.offset + byteSize t.text.toList⟩

/-- The token as text. -/
def display (t : Token) : String :=
  s!"Token('{t.name}', '{escape t.text}')"

end Token

end ScanRules
