import ScanRules.Unicode.Property

/-!
# Assertions

Conditions on a position in a text that consume nothing. A position is given by the character
before it and the character after it, either of which may be missing.

- `Look`: the conditions.
- `Look.holds`: when they are met.
-/

namespace ScanRules.Pattern

/-- Conditions on whether the characters around a position are members of words. -/
inductive WordEdge where
  | boundary
  | inside
  | start
  | stop
  | startHalf
  | stopHalf
  deriving DecidableEq, Repr

/-- A condition on a position. `crlf` lets carriage returns end lines as well as line feeds. -/
inductive Look where
  | textStart
  | textEnd
  | lineStart (crlf : Bool)
  | lineEnd (crlf : Bool)
  | word (edge : WordEdge) (unicode : Bool)
  deriving DecidableEq, Repr

/-- Is the character a member of words, in ASCII or in Unicode? -/
def isWordChar (unicode : Bool) (c : Char) : Bool :=
  c.isAlphanum || c == '_' || (unicode && 128 ≤ c.toNat && Unicode.Property.word.has c)

/-- Whether the position between a character that is a member of words, or not, and one that is, or
not, meets a condition. -/
def WordEdge.holds (edge : WordEdge) (before after : Bool) : Bool :=
  match edge with
  | boundary => before != after
  | inside => before == after
  | start => !before && after
  | stop => before && !after
  | startHalf => !before
  | stopHalf => !after

/-- Whether the position between two characters meets a condition. -/
def Look.holds (look : Look) (before after : Option Char) : Bool :=
  match look with
  | textStart => before.isNone
  | textEnd => after.isNone
  | lineStart false => before.isNone || before == some '\n'
  | lineEnd false => after.isNone || after == some '\n'
  | lineStart true =>
    before.isNone || before == some '\n' || (before == some '\r' && after != some '\n')
  | lineEnd true =>
    after.isNone || after == some '\r' || (after == some '\n' && before != some '\r')
  | word edge unicode =>
    edge.holds (before.any (isWordChar unicode)) (after.any (isWordChar unicode))

end ScanRules.Pattern
