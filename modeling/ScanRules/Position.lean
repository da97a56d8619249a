import ScanRules.Text.Bytes

/-!
# Positions

A position in a text is an offset in bytes together with a line and a column, both counted from 1.
Columns count characters.

- `Position`: the three numbers.
- `Position.step`: the position after one character.
- `Position.advance`: the position after a text, found without going through its characters one by
  one: only what follows its last line feed matters for the column.
- `Position.display`.
-/

namespace ScanRules

/-- A place in a text. -/
structure Position where
  offset : Nat
  line : Nat
  column : Nat
  deriving DecidableEq, Repr

namespace Position

/-- The position in front of a text. -/
def origin : Position := ⟨0, 1, 1⟩

/-- The position after one character. -/
def step (p : Position) (c : Char) : Position :=
  if c = '\n' then ⟨p.offset + c.utf8Size, p.line + 1, 1⟩
  else ⟨p.offset + c.utf8Size, p.line, p.column + 1⟩

/-- What follows the last line feed of a text, if it has one. -/
def lastLine? (text : List Char) : Option (List Char) :=
  if '\n' ∈ text then some (text.reverse.takeWhile (· ≠ '\n')).reverse else none

/-- The position after a text. -/
def advance (p : Position) (text : List Char) : Position :=
  match lastLine? text with
  | some tail => ⟨p.offset + byteSize text, p.line + text.count '\n', tail.length + 1⟩
  | none => ⟨p.offset + byteSize text, p.line, p.column + text.length⟩

/-- The position as text. -/
def display (p : Position) : String :=
  s!"offset {p.offset}, line {p.line}, column {p.column}"

end Position

end ScanRules
