import ScanRules.Json.Codec
import ScanRules.RuleSet
import ScanRules.Token

/-!
# Forms of rules and positions in JSON

How spans, positions, flags, rules, rule sets and tokens are written. In a rule everything but the
pattern is left out if it has the value that it gets when it is missing. Tokens are only written.
-/

namespace ScanRules

open Json

namespace Span

/-- The fields of a span read so far. -/
structure Draft where
  start : Option Nat := none
  stop : Option Nat := none

/-- How spans are read. -/
def shape : Shape Draft Span where
  name := "Span"
  start := {}
  fields :=
    [ .of "start" false Draft.start (fun n d => { d with start := some n }) Codec.reader,
      .of "end" false Draft.stop (fun n d => { d with stop := some n }) Codec.reader ]
  finish d :=
    match d.start, d.stop with
    | none, _ => .error (.missingField "start")
    | _, none => .error (.missingField "end")
    | some start, some stop => .ok ⟨start, stop⟩

instance : Codec Span where
  toJson s := .object [("start", toJson s.start), ("end", toJson s.stop)]
  reader := .record shape

end Span

namespace Position

/-- The fields of a position read so far. -/
structure Draft where
  offset : Option Nat := none
  line : Option Nat := none
  column : Option Nat := none

/-- How positions are read. -/
def shape : Shape Draft Position where
  name := "SourcePosition"
  start := {}
  fields :=
    [ .of "offset" false Draft.offset (fun n d => { d with offset := some n }) Codec.reader,
      .of "line" false Draft.line (fun n d => { d with line := some n }) Codec.reader,
      .of "column" false Draft.column (fun n d => { d with column := some n }) Codec.reader ]
  finish d :=
    match d.offset, d.line, d.column with
    | none, _, _ => .error (.missingField "offset")
    | _, none, _ => .error (.missingField "line")
    | _, _, none => .error (.missingField "column")
    | some offset, some line, some column => .ok ⟨offset, line, column⟩

instance : Codec Position where
  toJson p :=
    .object [("offset", toJson p.offset), ("line", toJson p.line), ("column", toJson p.column)]
  reader := .record shape

end Position

namespace Token

/-- The form of a token. -/
def toJson (t : Token) : Json :=
  .object
    [("name", .text t.name), ("text", .text t.text), ("position", Json.toJson t.position)]

end Token

namespace Flags

/-- What the form of flags is, in words. -/
def expected : String := "a string value of `|` separated flags"

instance : Codec Flags where
  toJson f := .text f.written
  reader := .scalar expected (Codec.takeTextBy expected .badFlags ofWritten)

end Flags

namespace RuleSpec

variable {S : Type}

/-- The fields of a rule read so far. -/
structure Draft (S : Type) where
  name : Option String := none
  pattern : Option String := none
  flags : Option Flags := none
  state : Option (Option S) := none
  pop : Option Bool := none
  push : Option (List S) := none

/-- How rules are read. -/
def shape [Codec S] : Shape (Draft S) (RuleSpec S) where
  name := "RuleSpec"
  start := {}
  fields :=
    [ .of "name" true Draft.name (fun a d => { d with name := some a }) Codec.reader,
      .of "pattern" false Draft.pattern (fun a d => { d with pattern := some a }) Codec.reader,
      .of "flags" true Draft.flags (fun a d => { d with flags := some a }) Codec.reader,
      .of "state" true Draft.state (fun a d => { d with state := some a }) Codec.reader,
      .of "pop" true Draft.pop (fun a d => { d with pop := some a }) Codec.reader,
      .of "push" true Draft.push (fun a d => { d with push := some a }) Codec.reader ]
  finish d :=
    match d.pattern with
    | none => .error (.missingField "pattern")
    | some pattern =>
      .ok
        { name := d.name.getD ""
          pattern
          flags := d.flags.getD .empty
          state := d.state.getD none
          pop := d.pop.getD false
          push := d.push.getD [] }

/-- A member of an object, unless it is to be left out. -/
def memberUnless {α : Type} [Codec α] (omitted : Bool) (name : String) (a : α) :
    List (String × Json) :=
  if omitted then [] else [(name, toJson a)]

instance [Codec S] : Codec (RuleSpec S) where
  toJson r :=
    .object
      (memberUnless (r.name = "") "name" r.name ++ [("pattern", toJson r.pattern)] ++
        memberUnless r.flags.isEmpty "flags" r.flags ++
        memberUnless r.state.isNone "state" r.state ++ memberUnless (!r.pop) "pop" r.pop ++
        memberUnless r.push.isEmpty "push" r.push)
  reader := .record shape

end RuleSpec

namespace RuleSet

variable {S : Type}

/-- The fields of a rule set read so far. -/
structure Draft (S : Type) where
  rules : Option (List (RuleSpec S)) := none
  ignored : Option (List (RuleSpec S)) := none

/-- How rule sets are read. -/
def shape [Codec S] : Shape (Draft S) (RuleSet S) where
  name := "RuleSet"
  start := {}
  fields :=
    [ .of "rules" true Draft.rules (fun a d => { d with rules := some a }) Codec.reader,
      .of "ignore" true Draft.ignored (fun a d => { d with ignored := some a }) Codec.reader ]
  finish d := .ok ⟨d.rules.getD [], d.ignored.getD []⟩

instance [Codec S] : Codec (RuleSet S) where
  toJson s := .object [("rules", toJson s.rules), ("ignore", toJson s.ignored)]
  reader := .record shape

end RuleSet

end ScanRules
