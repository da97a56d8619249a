import ScanRules.Rule
import ScanRules.Token

/-!
# Events

What making and using a scanner reports while it goes on.

- `Event`, `Event.level`, `Event.text`: one report, its weight and its wording.
- `Outcome`: the answer of a call together with what is left after it and the events on the way.
-/

namespace ScanRules

/-- Something worth a line in a log. -/
inductive Event (S : Type) where
  /-- A pattern was compiled. -/
  | compiled (pattern : Pattern)
  /-- A rule got a number among the rules for tokens. -/
  | added (index : Nat) (rule : Rule S)
  /-- A rule got a number among the ignored rules. -/
  | addedIgnored (index : Nat) (rule : Rule S)
  /-- A scanner is made out of so many rules. -/
  | building (rules ignored : Nat)
  /-- A text of so many bytes is about to be scanned. -/
  | starting (bytes : Nat)
  /-- A rule left this stack behind, its top first. -/
  | stackChanged (rule : String) (states : List S)
  /-- A text was passed over. -/
  | skipped (text : String) (span : Span)
  /-- A text was taken, and the next one starts at this line and column. -/
  | advanced (span : Span) (line column : Nat)
  /-- A token was found. -/
  | matched (token : Token)
  /-- There is no text left. -/
  | ended

/-- The weight of an event. -/
inductive Level where
  | debug
  | trace
  deriving DecidableEq, Repr

/-- The name of a level. -/
def Level.display : Level → String
  | debug => "DEBUG"
  | trace => "TRACE"

namespace Event

variable {S : Type}

/-- The weight of an event. -/
def level : Event S → Level
  | added _ _ | addedIgnored _ _ | building _ _ | starting _ => .debug
  | compiled _ | stackChanged _ _ | skipped _ _ | advanced _ _ _ | matched _ | ended => .trace

/-- The wording of an event. -/
def text [StateName S] : Event S → String
  | compiled p => s!"Compiled pattern '{p.display}' with flags {p.flags.display}"
  | added index rule => s!"Added rule #{index} {rule.display}"
  | addedIgnored index rule => s!"Added ignore rule #{index} {rule.display}"
  | building rules ignored =>
    s!"Building scanner with {rules} rules and {ignored} ignore rules"
  | starting bytes => s!"Starting scan session over {bytes} bytes"
  | stackChanged rule states =>
    s!"Rule '{rule}' changed the state stack to " ++ StateName.displayAll states.reverse
  | skipped text span => "Skipped " ++ quote text ++ " at " ++ span.display
  | advanced span line column =>
    s!"Advanced over {span.display} to line {line}, column {column}"
  | matched token => s!"Matched {token.display} at {token.position.display}"
  | ended => "End of input reached"

/-- The line that an event makes in a log. -/
def line [StateName S] (e : Event S) : String :=
  e.level.display ++ " " ++ e.text

end Event

/-- What a call comes to: its answer, the new value of what it was made on, and its events. -/
structure Outcome (S State Answer : Type) where
  answer : Answer
  after : State
  events : List (Event S)

namespace Outcome

variable {S State Answer Arg : Type}

/-- The outcome with further events in front. -/
def afterEvents (events : List (Event S)) (o : Outcome S State Answer) : Outcome S State Answer :=
  { o with events := events ++ o.events }

@[simp] theorem afterEvents_answer (events : List (Event S)) (o : Outcome S State Answer) :
    (o.afterEvents events).answer = o.answer := rfl

@[simp] theorem afterEvents_after (events : List (Event S)) (o : Outcome S State Answer) :
    (o.afterEvents events).after = o.after := rfl

/-- Makes a call for each argument in turn and stops at the first one that fails. -/
def forEach (call : Arg → State → Outcome S State (Except Error Unit)) :
    List Arg → State → Outcome S State (Except Error Unit)
  | [], s => ⟨.ok (), s, []⟩
  | arg :: args, s =>
    let o := call arg s
    match o.answer with
    | .error _ => o
    | .ok () => (forEach call args o.after).afterEvents o.events

end Outcome

end ScanRules
