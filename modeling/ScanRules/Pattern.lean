import ScanRules.Flags
import ScanRules.Pattern.Machine.Build
import ScanRules.Pattern.Meaning
import ScanRules.Pattern.Reader
import ScanRules.Pattern.Weight
import ScanRules.Span
import ScanRules.Text.Bytes
import ScanRules.Text.Escaped

/-!
# Patterns

A pattern is a text in the pattern language together with flags and the machine that the two
determine.

- `Pattern.exprOf`, `Pattern.machineOf`: what a text and flags mean.
- `Pattern`, `Pattern.compile`: patterns, and how they are made.
- `Pattern.matchAhead`: the match at the start of a text, as a number of characters.
- `Pattern.matchAt`: the match at an offset of a text, as a span.

A match starts exactly where it is asked for. Of several possible matches the one is found that
prefers earlier alternatives and, as the repetitions say, more or fewer rounds; its length does not
matter. Assertions see the whole text.
-/

namespace ScanRules

namespace Pattern

/-- Why a text is not a pattern: it is at fault somewhere, or its machine would be too large. -/
inductive Refusal where
  | fault (fault : Fault)
  | tooHeavy
  deriving DecidableEq, Repr

/-- The switches that flags turn on. -/
def modesOf (flags : Flags) : Modes :=
  { ignoreCase := flags.caseInsensitive
    multiLine := flags.multiLine
    dotAll := flags.dotMatchesNewLine
    swapGreed := flags.swapGreed }

/-- The expression that a text means under flags. -/
def exprOf (text : List Char) (flags : Flags) : Except Fault Expr := do
  let tree ← Tree.ofText flags.ignoreWhitespace text
  let (e, _) ← tree.meaning (modesOf flags)
  return e

/-- The machine of a text under flags. -/
def machineOf (text : List Char) (flags : Flags) : Except Refusal Machine :=
  match exprOf text flags with
  | .error fault => .error (.fault fault)
  | .ok e => if e.tooHeavy then .error .tooHeavy else .ok (.ofExpr e)

end Pattern

/-- A text in the pattern language with its flags and its machine. -/
structure Pattern where
  text : String
  flags : Flags
  machine : Pattern.Machine
  compiles : Pattern.machineOf text.toList flags = .ok machine

namespace Pattern

/-- The pattern of a text under flags. -/
def compile (text : String) (flags : Flags) : Except Refusal Pattern :=
  match h : machineOf text.toList flags with
  | .ok machine => .ok ⟨text, flags, machine, h⟩
  | .error refusal => .error refusal

/-- Text and flags determine the machine. -/
theorem ext_text_flags {p q : Pattern} (ht : p.text = q.text) (hf : p.flags = q.flags) :
    p = q := by
  obtain ⟨text, flags, machine, h⟩ := p
  obtain ⟨text', flags', machine', h'⟩ := q
  obtain rfl : text = text' := ht
  obtain rfl : flags = flags' := hf
  obtain rfl : machine = machine' := Except.ok.inj (h.symm.trans h')
  rfl

/-- The number of characters that the pattern matches at the start of a text which comes after the
character `before`. -/
def matchAhead (p : Pattern) (before : Option Char) (text : List Char) : Option Nat :=
  p.machine.match? before text

/-- The match of the pattern at an offset of a text. -/
def matchAt (p : Pattern) (text : String) (offset : Nat) : Option Span := do
  let (before, rest) ← seek? none text.toList offset
  let count ← p.matchAhead before rest
  return ⟨offset, offset + byteSize (rest.take count)⟩

/-- The text of the pattern in escaped form. -/
def display (p : Pattern) : String := escape p.text

end Pattern

end ScanRules
