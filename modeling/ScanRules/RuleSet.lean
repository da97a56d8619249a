import ScanRules.Rule

/-!
# Rule sets

Rules as they are written down, before their patterns are compiled.

- `RuleSpec`: one rule.
- `RuleSet`: the rules that make tokens and the rules whose matches are passed over, each in the
  order in which they are tried.
-/

namespace ScanRules

/-- A rule as it is written down. Everything except the pattern may be left out. -/
structure RuleSpec (S : Type) extends RuleOptions S where
  name : String := ""
  pattern : String
  deriving DecidableEq, Repr

/-- An ordered collection of rules. Names of ignored rules have no effect. -/
structure RuleSet (S : Type) where
  rules : List (RuleSpec S) := []
  ignored : List (RuleSpec S) := []
  deriving DecidableEq, Repr

namespace RuleSet

variable {S : Type}

/-- The rule set without rules. -/
def empty : RuleSet S := {}

end RuleSet

end ScanRules
