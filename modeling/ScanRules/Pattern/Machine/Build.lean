import ScanRules.Pattern.Expr
import ScanRules.Pattern.Machine

/-!
# Building machines

Machines for expressions. States are added from the end of a match to its start, so that a state
knows the number of the one that follows it.

- `Builder`: the states so far, with `add` for a new one and `loop` for one that is entered again.
- `Expr.build`: adds the states of an expression in front of a given state.
- `Machine.ofExpr`: the machine of an expression. State 0 accepts.

A repetition without bound whose body can match the empty text is an optional repetition from one
on: the choice to leave the loop is then offered after the body as well as before it, which keeps
the order of preference right.
-/

namespace ScanRules.Pattern

/-- The states of a machine that is being built. -/
abbrev Builder := Array State

namespace Builder

/-- Adds a state; also its number. -/
def add (b : Builder) (s : State) : Nat × Builder :=
  (b.size, b.push s)

/-- Adds a choice between going on with `inner` and leaving for `next`. -/
def addChoice (b : Builder) (greedy : Bool) (inner next : Nat) : Nat × Builder :=
  b.add (.split (if greedy then [inner, next] else [next, inner]))

/-- Adds a body that returns to a choice between itself and `next`; the numbers of the choice and
of the start of the body. -/
def loop (b : Builder) (greedy : Bool) (body : Nat → Builder → Nat × Builder) (next : Nat) :
    (Nat × Nat) × Builder :=
  let (choice, b) := b.add (.split [])
  let (inner, b) := body choice b
  let choices := if greedy then [inner, next] else [next, inner]
  ((choice, inner), b.setIfInBounds choice (.split choices))

/-- Adds `count` copies of a body, one in front of the other. -/
def copies (body : Nat → Builder → Nat × Builder) : (count : Nat) → Nat → Builder → Nat × Builder
  | 0, next, b => (next, b)
  | count + 1, next, b =>
    let (inner, b) := body next b
    copies body count inner b

/-- Adds `count` optional copies of a body: after each of them the rest can be left out. -/
def optionalCopies (greedy : Bool) (body : Nat → Builder → Nat × Builder) (leave : Nat) :
    (count : Nat) → Nat → Builder → Nat × Builder
  | 0, next, b => (next, b)
  | count + 1, next, b =>
    let (inner, b) := body next b
    let (choice, b) := b.addChoice greedy inner leave
    optionalCopies greedy body leave count choice b

/-- Adds the characters of a text, one in front of the other. -/
def addChars (next : Nat) (b : Builder) : List Char → Nat × Builder
  | [] => (next, b)
  | c :: rest =>
    let (following, b) := b.addChars next rest
    b.add (.take (.single c) following)

end Builder

namespace Expr

mutual

/-- Adds the states of an expression in front of the state `next`; also the number of the first. -/
def build : Expr → (next : Nat) → Builder → Nat × Builder
  | .empty, next, b => (next, b)
  | .literal chars, next, b => b.addChars next chars
  | .set members _, next, b => b.add (.take members next)
  | .look condition, next, b => b.add (.check condition next)
  | .repeated body least most greedy, next, b =>
    match most with
    | some most =>
      let (inner, b) := Builder.optionalCopies greedy body.build next (most - least) next b
      Builder.copies body.build least inner b
    | none =>
      if least = 0 then
        let ((choice, inner), b) := b.loop greedy body.build next
        if body.leastSize.any (0 < ·) then (choice, b) else b.addChoice greedy inner next
      else
        let ((_, inner), b) := b.loop greedy body.build next
        Builder.copies body.build (least - 1) inner b
  | .capture _ body, next, b => body.build next b
  | .concat parts, next, b => buildAll parts next b
  | .alternation branches, next, b =>
    let (choices, b) := buildEach branches next b
    b.add (.split choices)

/-- Adds the states of a sequence. -/
def buildAll : List Expr → (next : Nat) → Builder → Nat × Builder
  | [], next, b => (next, b)
  | e :: rest, next, b =>
    let (following, b) := buildAll rest next b
    e.build following b

/-- Adds the states of several expressions that are all followed by the same state. -/
def buildEach : List Expr → (next : Nat) → Builder → List Nat × Builder
  | [], _, b => ([], b)
  | e :: rest, next, b =>
    let (start, b) := e.build next b
    let (starts, b) := buildEach rest next b
    (start :: starts, b)

end

end Expr

/-- The machine of an expression. -/
def Machine.ofExpr (e : Expr) : Machine :=
  let (start, states) := e.build 0 #[.accept]
  ⟨states, start⟩

end ScanRules.Pattern
