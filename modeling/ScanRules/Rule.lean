import ScanRules.Error
import ScanRules.StateName

/-!
# Rules

A rule is a pattern with a name. It may be restricted to a lexer state, and it may change the
stack of states when it matches. A stack is a list whose first element is its top.

- `StackUse`: how a rule depends on the stack and what it does to it, with `StackUse.eligible` and
  `StackUse.transition?`.
- `RuleOptions`: the parts of a rule that need not be given.
- `Rule`, `Rule.make`: rules, and how they are made.
- `Rule.reach`: how many characters a rule takes. It takes at least one or does not match.
- `Rule.attemptAt`: the same at an offset of a text.
-/

namespace ScanRules

/-- The state that a rule needs to find on top of the stack, whether the rule takes it off, and the
states that the rule puts on afterwards, the new top last. -/
structure StackUse (S : Type) where
  state : Option S := none
  pop : Bool := false
  push : List S := []
  deriving DecidableEq, Repr

namespace StackUse

variable {S : Type}

/-- May the rule be tried on this stack? -/
def eligible [DecidableEq S] (u : StackUse S) (states : List S) : Bool :=
  match u.state with
  | none => true
  | some s => states.head? = some s

/-- The stack after a match. There is none if the rule takes a state from an empty stack. -/
def transition? (u : StackUse S) (states : List S) : Option (List S) :=
  match u.pop, states with
  | true, [] => none
  | true, _ :: below => some (u.push.reverse ++ below)
  | false, states => some (u.push.reverse ++ states)

/-- Does the rule touch the stack at all? -/
def touches (u : StackUse S) : Bool := u.pop || !u.push.isEmpty

theorem transition?_eq_none_iff (u : StackUse S) (states : List S) :
    u.transition? states = none ↔ u.pop ∧ states = [] := by
  obtain ⟨_, pop, _⟩ := u
  cases pop <;> cases states <;> simp [transition?]

end StackUse

/-- What can be said about a rule besides its name and the text of its pattern. -/
structure RuleOptions (S : Type) extends StackUse S where
  flags : Flags := .empty
  deriving DecidableEq, Repr

/-- A pattern that is used to find tokens, or text to pass over. -/
structure Rule (S : Type) extends StackUse S where
  name : String
  pattern : Pattern

namespace Rule

variable {S : Type}

/-- The rule with a name, the text of a pattern and options. -/
def make (name text : String) (options : RuleOptions S) : Except Error (Rule S) :=
  match Pattern.compile text options.flags with
  | .ok pattern => .ok { options with name, pattern }
  | .error refusal => .error (.ofRefusal text refusal)

/-- The number of characters that the rule takes from the start of a text which comes after the
character `before`. -/
def reach (r : Rule S) (before : Option Char) (text : List Char) : Option Nat :=
  (r.pattern.matchAhead before text).filter (0 < ·)

theorem pos_of_reach {r : Rule S} {before : Option Char} {text : List Char} {n : Nat}
    (h : r.reach before text = some n) : 0 < n := by
  simpa using (Option.filter_eq_some_iff.1 h).2

/-- What the rule matches at an offset of a text. -/
def attemptAt (r : Rule S) (text : String) (offset : Nat) : Option Span :=
  (r.pattern.matchAt text offset).filter (!·.isEmpty)

/-- The rule as text. -/
def display [StateName S] (r : Rule S) : String :=
  s!"{r.name}: {r.pattern.display}" ++
    match r.state with
    | none => ""
    | some s => s!" in {StateName.display s}"

end Rule

end ScanRules
