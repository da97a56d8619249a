import ScanRules.Text.Escaped
import ScanRules.Unicode.Category
import ScanRules.Unicode.Property

/-!
# Quoted text

The form in which lexer states and skipped texts are shown: between double quotes, with characters
that can be seen standing for themselves.

- `isVisible`: the characters that can be seen.
- `quote`: the quoted form.
-/

namespace ScanRules

/-- The characters that cannot be seen, or that change the look of the one before them. -/
def invisible : CharSet :=
  Unicode.Category.other ∪ Unicode.Category.separator ∪ Unicode.Property.graphemeExtend

/-- Can the character be seen, the space included? -/
def isVisible (c : Char) : Bool :=
  if c.toNat < 0x7F then 0x20 ≤ c.toNat else !invisible.has c

/-- A character in quoted form. -/
def quoteChar (c : Char) : List Char :=
  match c with
  | '\x00' => ['\\', '0']
  | '\t' => ['\\', 't']
  | '\r' => ['\\', 'r']
  | '\n' => ['\\', 'n']
  | '"' => ['\\', '"']
  | '\\' => ['\\', '\\']
  | c => if isVisible c then [c] else escapeNumber c

/-- A text in quoted form. -/
def quote (text : String) : String :=
  "\"" ++ String.ofList (text.toList.flatMap quoteChar) ++ "\""

end ScanRules
