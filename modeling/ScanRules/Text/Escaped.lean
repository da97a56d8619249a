import ScanRules.Text.Hex

/-!
# Escaped text

The form in which patterns and the texts of tokens are shown: printable ASCII stands for itself,
but quotes and backslashes get a backslash, tabs and line ends a letter, and all other characters
their number.

- `escapeChar`, `escape`: the escaped form.
-/

namespace ScanRules

/-- A character by its number, as in `\u{e9}`. -/
def escapeNumber (c : Char) : List Char :=
  ['\\', 'u', '{'] ++ hexDigits c.toNat ++ ['}']

/-- A character in escaped form. -/
def escapeChar (c : Char) : List Char :=
  match c with
  | '\t' => ['\\', 't']
  | '\r' => ['\\', 'r']
  | '\n' => ['\\', 'n']
  | '\'' => ['\\', '\'']
  | '"' => ['\\', '"']
  | '\\' => ['\\', '\\']
  | c => if 0x20 ≤ c.toNat ∧ c.toNat ≤ 0x7E then [c] else escapeNumber c

/-- A text in escaped form. -/
def escape (text : String) : String :=
  String.ofList (text.toList.flatMap escapeChar)

end ScanRules
