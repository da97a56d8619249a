import ScanRules.Pattern
import ScanRules.Pattern.Report
import ScanRules.Position

/-!
# Errors

What can go wrong when rules are made and when texts are scanned.

- `Error`: the causes. The first two arise from patterns and have no position.
- `Error.message`: the wording.
- `Error.causes`: the wordings of an error and of what lies behind it.
-/

namespace ScanRules

/-- What went wrong. -/
inductive Error where
  /-- The text of a pattern is at fault. -/
  | syntaxFault (pattern : String) (fault : Pattern.Fault)
  /-- A pattern stands for a machine that would be too large. -/
  | tooHeavy
  /-- No rule matches at a position. -/
  | noMatch (position : Position)
  /-- A rule that matched at a position takes a state from an empty stack. -/
  | underflow (rule : String) (position : Position)
  deriving DecidableEq, Repr

namespace Error

/-- The error of a refused pattern. -/
def ofRefusal (pattern : String) : Pattern.Refusal → Error
  | .fault fault => syntaxFault pattern fault
  | .tooHeavy => tooHeavy

/-- The wording of an error. -/
def message : Error → String
  | syntaxFault pattern fault => s!"'{pattern}' " ++ fault.report pattern.toList
  | tooHeavy => "error building NFA"
  | noMatch position => s!"No rule matches at {position.display}"
  | underflow rule position =>
    s!"Rule '{rule}' pops an empty state stack at {position.display}"

/-- Where scanning failed. -/
def position? : Error → Option Position
  | noMatch position | underflow _ position => some position
  | syntaxFault _ _ | tooHeavy => none

/-- The wording of an error, followed by that of its cause where it has one. -/
def causes (e : Error) : List String :=
  match e with
  | tooHeavy =>
    [e.message,
      s!"heap usage during NFA compilation exceeded limit of {Pattern.weightLimit}"]
  | _ => [e.message]

end Error

end ScanRules
