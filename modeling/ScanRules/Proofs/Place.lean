import ScanRules.Proofs.Position
import ScanRules.Proofs.Rule
import ScanRules.Scanner.Builder

/-!
# What a scanner means

The rules of scanning, said of offsets of a whole text and of stacks whose top is last. Nothing
here follows the text character by character or keeps a line and a column.

- `Place`: an offset and a stack.
- `Rule.Takes`: a rule may be tried at a place and matches some text there.
- `Scanner.Fires`: the rule that fires at a place, an ignored one before all others.
- `Scanner.Moves`, `Scanner.Fails`: what one step does.
- `Scanner.Call`: what one call for a token does, step by step.
- `Scanner.Calls`: what any number of calls does. The first error is repeated forever.
-/

namespace ScanRules

/-- A place in a text: an offset and the stack of states there, the top last. -/
structure Place (S : Type) where
  offset : Nat
  stack : List S
  deriving DecidableEq, Repr

variable {S : Type}

namespace Rule

/-- The rule needs no state, or it needs the one on top. -/
def AdmittedOn (r : Rule S) (stack : List S) : Prop :=
  r.state = none ∨ r.state = stack.getLast?

/-- The rule may be tried at a place, and there it matches the text of a span, which is not
empty. -/
def Takes (r : Rule S) (text : String) (p : Place S) (span : Span) : Prop :=
  r.AdmittedOn p.stack ∧ r.pattern.matchAt text p.offset = some span ∧ span.start < span.stop

/-- The rule is the first of a list that takes some text at a place. -/
def FirstToTake (rules : List (Rule S)) (text : String) (p : Place S) (r : Rule S)
    (span : Span) : Prop :=
  ∃ earlier later, rules = earlier ++ r :: later ∧ r.Takes text p span ∧
    ∀ q ∈ earlier, ∀ other, ¬ q.Takes text p other

/-- The stack after the rule has fired: without its top, if the rule pops, and with what the rule
pushes. -/
def stackAfter (r : Rule S) (stack : List S) : List S :=
  (if r.pop then stack.dropLast else stack) ++ r.push

end Rule

namespace Scanner

/-- The rule fires at a place: it is the first ignored rule that takes some text, or there is no
such rule and it is the first of the other rules that does. -/
inductive Fires (scanner : Scanner S) (text : String) (p : Place S) :
    Role → Rule S → Span → Prop
  | ignored {r : Rule S} {span : Span} :
    Rule.FirstToTake scanner.ignored text p r span → Fires scanner text p .ignored r span
  | token {r : Rule S} {span : Span} :
    (∀ q ∈ scanner.ignored, ∀ other, ¬ q.Takes text p other) →
    Rule.FirstToTake scanner.rules text p r span → Fires scanner text p .token r span

/-- In front of the end of the text a rule fires and leads from one place to another. -/
structure Moves (scanner : Scanner S) (text : String) (p : Place S) (role : Role) (r : Rule S)
    (span : Span) (q : Place S) : Prop where
  before_end : p.offset < byteSize text.toList
  fires : scanner.Fires text p role r span
  stack_ne_nil : r.pop → p.stack ≠ []
  after : q = ⟨span.stop, r.stackAfter p.stack⟩

/-- In front of the end of the text a step fails: no rule takes any text, or the one that fires
would pop a state from an empty stack. -/
inductive Fails (scanner : Scanner S) (text : String) (p : Place S) : Error → Prop
  | noMatch {position : Position} : p.offset < byteSize text.toList →
    (∀ r ∈ scanner.ignored ++ scanner.rules, ∀ span, ¬ r.Takes text p span) →
    Position.inText? text.toList p.offset = some position →
    Fails scanner text p (.noMatch position)
  | underflow {role : Role} {r : Rule S} {span : Span} {position : Position} :
    p.offset < byteSize text.toList → scanner.Fires text p role r span → r.pop → p.stack = [] →
    Position.inText? text.toList p.offset = some position →
    Fails scanner text p (.underflow r.name position)

/-- A call at a place has an answer and leads to another place. -/
inductive Call (scanner : Scanner S) (text : String) :
    Place S → Except Error (Option Token) → Place S → Prop
  | ended {p : Place S} : byteSize text.toList ≤ p.offset → Call scanner text p (.ok none) p
  | failed {p : Place S} {e : Error} : scanner.Fails text p e → Call scanner text p (.error e) p
  | found {p q : Place S} {r : Rule S} {span : Span} {word : List Char} {position : Position} :
    scanner.Moves text p .token r span q → slice? text.toList span = some word →
    Position.inText? text.toList p.offset = some position →
    Call scanner text p (.ok (some ⟨r.name, String.ofList word, position⟩)) q
  | skipped {p q q' : Place S} {r : Rule S} {span : Span} {answer : Except Error (Option Token)} :
    scanner.Moves text p .ignored r span q → Call scanner text q answer q' →
    Call scanner text p answer q'

/-- A number of calls in a row, each with its answer and the place after it. -/
inductive Calls (scanner : Scanner S) (text : String) :
    Place S → List (Except Error (Option Token) × Place S) → Prop
  | nil {p : Place S} : Calls scanner text p []
  | answered {p q : Place S} {found : Option Token}
      {replies : List (Except Error (Option Token) × Place S)} :
    scanner.Call text p (.ok found) q → Calls scanner text q replies →
    Calls scanner text p ((.ok found, q) :: replies)
  | failed {p q : Place S} {e : Error} (again : Nat) : scanner.Call text p (.error e) q →
    Calls scanner text p (List.replicate (again + 1) (.error e, q))

end Scanner

end ScanRules
