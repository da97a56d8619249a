import ScanRules.Text.Quoted

/-!
# Names of lexer states

Rules may be restricted to lexer states. Any type can serve for the states of a scanner; reports
need to know how to write them.

- `StateName`: the types that name states.
- `StateName.displayAll`: a list of states as text.
-/

namespace ScanRules

/-- A type whose values name lexer states, with the text that reports show for them. -/
class StateName (S : Type) where
  display : S → String

namespace StateName

/-- Texts are shown between quotes. -/
instance : StateName String := ⟨quote⟩

/-- Numbers are shown in decimal. -/
instance : StateName Int64 := ⟨fun n => toString n.toInt⟩

/-- States as text, the first one first. -/
def displayAll {S : Type} [StateName S] (states : List S) : String :=
  "[" ++ ", ".intercalate (states.map display) ++ "]"

end StateName

end ScanRules
