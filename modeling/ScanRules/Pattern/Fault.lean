/-!
# Faults in patterns

What can be wrong with the text of a pattern and where.

- `Extent`: a part of the pattern.
- `FaultKind`: the cause, with its wording (`FaultKind.message`).
- `Fault`: a cause at a place. A fault of repetition, such as a flag given twice, also names the
  place of the first occurrence.
-/

namespace ScanRules.Pattern

/-- A part of a pattern, told by how many characters of the pattern are left where the part starts
and where it stops. These numbers do not depend on what stands before the part. -/
structure Extent where
  start : Nat
  stop : Nat
  deriving DecidableEq, Repr

/-- The extent of the first character of a text. -/
def Extent.ofFirst (text : List Char) : Extent := ⟨text.length, text.length - 1⟩

/-- The empty extent in front of a text. -/
def Extent.before (text : List Char) : Extent := ⟨text.length, text.length⟩

/-- The number of levels to which groups, sets and repetitions may be nested. -/
def nestingLimit : Nat := 250

/-- What is wrong with a pattern. -/
inductive FaultKind where
  | backreference
  | classEscapeInvalid
  | classRangeInvalid
  | classRangeNotLiteral
  | classUnclosed
  | decimalInvalid
  | escapeAtEnd
  | escapeUnknown
  | flagDanglingNegation
  | flagDuplicate
  | flagMissing
  | flagRepeatedNegation
  | flagUnknown
  | groupNameDuplicate
  | groupNameEmpty
  | groupNameInvalid
  | groupNameUnclosed
  | groupUnclosed
  | groupUnopened
  | hexDigitInvalid
  | hexEmpty
  | hexInvalid
  | lookAround
  | nestedTooDeep
  | notUnicodeText
  | propertyInvalid
  | propertyUnknown
  | propertyValueUnknown
  | repetitionCountInvalid
  | repetitionCountMissing
  | repetitionCountUnclosed
  | repetitionMissing
  | unicodeNotAllowed
  | wordBoundaryOrRepetitionUnclosed
  | wordBoundaryUnclosed
  | wordBoundaryUnknown
  deriving DecidableEq, Repr

/-- The wording of a fault. -/
def FaultKind.message : FaultKind → String
  | backreference => "backreferences are not supported"
  | classEscapeInvalid => "invalid escape sequence found in character class"
  | classRangeInvalid => "invalid character class range, the start must be <= the end"
  | classRangeNotLiteral => "invalid range boundary, must be a literal"
  | classUnclosed => "unclosed character class"
  | decimalInvalid => "decimal literal invalid"
  | escapeAtEnd => "incomplete escape sequence, reached end of pattern prematurely"
  | escapeUnknown => "unrecognized escape sequence"
  | flagDanglingNegation => "dangling flag negation operator"
  | flagDuplicate => "duplicate flag"
  | flagMissing => "expected flag but got end of regex"
  | flagRepeatedNegation => "flag negation operator repeated"
  | flagUnknown => "unrecognized flag"
  | groupNameDuplicate => "duplicate capture group name"
  | groupNameEmpty => "empty capture group name"
  | groupNameInvalid => "invalid capture group character"
  | groupNameUnclosed => "unclosed capture group name"
  | groupUnclosed => "unclosed group"
  | groupUnopened => "unopened group"
  | hexDigitInvalid => "invalid hexadecimal digit"
  | hexEmpty => "hexadecimal literal empty"
  | hexInvalid => "hexadecimal literal is not a Unicode scalar value"
  | lookAround => "look-around, including look-ahead and look-behind, is not supported"
  | nestedTooDeep =>
    s!"exceed the maximum number of nested parentheses/brackets ({nestingLimit})"
  | notUnicodeText => "pattern can match invalid UTF-8"
  | propertyInvalid => "invalid Unicode character class"
  | propertyUnknown => "Unicode property not found"
  | propertyValueUnknown => "Unicode property value not found"
  | repetitionCountInvalid =>
    "invalid repetition count range, the start must be <= the end"
  | repetitionCountMissing => "repetition quantifier expects a valid decimal"
  | repetitionCountUnclosed => "unclosed counted repetition"
  | repetitionMissing => "repetition operator missing expression"
  | unicodeNotAllowed => "Unicode not allowed here"
  | wordBoundaryOrRepetitionUnclosed =>
    "found either the beginning of a special word boundary or a bounded repetition on a \\b " ++
      "with an opening brace, but no closing brace"
  | wordBoundaryUnclosed =>
    "special word boundary assertion is either unclosed or contains an invalid character"
  | wordBoundaryUnknown =>
    "unrecognized special word boundary assertion, valid choices are: start, end, start-half " ++
      "or end-half"

/-- A fault and its place, and for repeated things the place of the first occurrence. -/
structure Fault where
  kind : FaultKind
  extent : Extent
  first : Option Extent := none
  deriving DecidableEq, Repr

end ScanRules.Pattern
