import ScanRules.Pattern.Expr
import ScanRules.Pattern.Weight.Bytes
import ScanRules.Pattern.Weight.Words

/-!
# The weight of an expression

Counted repetitions let short patterns stand for very large machines. Before a machine is built the
pattern is weighed, and patterns that are heavier than `weightLimit` are refused.

The weight is what automata over UTF-8 text take up, one that reads text forwards and notes groups,
and one that reads it backwards. Both may search for a match, so they begin with a loop over bytes
unless matches are bound to the end of the text where reading starts. A long list of words is not
made into automata at all.

- `Expr.count`: counts the states of an expression.
- `Expr.weigh?`: the tally of the whole automaton, if it is within the limit.
- `Expr.tooHeavy`: the verdict.
-/

namespace ScanRules.Pattern.Expr

/-! ## Where matches are bound -/

mutual

/-- Does a match have to meet the assertion where it starts, or where it stops? -/
def bound (look : Look) (atStop : Bool) : Expr → Bool
  | .look l => l == look
  | .repeated body least _ _ => 0 < least && body.bound look atStop
  | .capture _ body => body.bound look atStop
  | .concat parts => if atStop then boundLast look parts else boundFirst look parts
  | .alternation branches => boundAll look atStop branches
  | _ => false

/-- Is one of the first parts bound, those in front of which there is nothing but empty text? -/
def boundFirst (look : Look) : List Expr → Bool
  | [] => false
  | e :: rest => e.bound look false || (e.greatestSize == some 0 && boundFirst look rest)

/-- Is one of the last parts bound, those behind which there is nothing but empty text? -/
def boundLast (look : Look) : List Expr → Bool
  | [] => false
  | e :: rest =>
    boundLast look rest || (rest.all (·.greatestSize == some 0) && e.bound look true)

/-- Are all alternatives bound? -/
def boundAll (look : Look) (atStop : Bool) : List Expr → Bool
  | [] => true
  | e :: rest => e.bound look atStop && boundAll look atStop rest

end

/-! ## States -/

/-- The characters of an expression that is a word. -/
def word? : Expr → Option (List Char)
  | .literal chars => some chars
  | _ => none

/-- Counts a repetition, given how to count what is repeated. `canBeEmpty` tells if that can match
the empty text; a loop over it is left behind it as well as in front of it. -/
def countRepeated (once : Count Unit) (canBeEmpty : Bool) (least : Nat) (most : Option Nat) :
    Count Unit :=
  let copies := if least = 0 then Count.states 1 else Count.times least once
  match most with
  | none =>
    if 0 < least then do
      copies
      Count.states 1
      Count.choices 2
    else if canBeEmpty then do
      once
      Count.states 3
      Count.choices 4
    else do
      Count.states 1
      once
      Count.choices 2
  | some most =>
    if least = most then copies
    else if least = 0 ∧ most = 1 then do
      Count.states 1
      once
      Count.states 1
      Count.choices 2
    else do
      copies
      Count.states 1
      Count.times (most - least) do
        Count.states 1
        once
        Count.choices 2

mutual

/-- Counts the states of an expression in the order in which they are added. -/
def count (backwards : Bool) : Expr → Count Unit
  | .empty => Count.states 1
  | .literal chars => Count.states (String.ofList chars).utf8ByteSize
  | .set members _ => countSet backwards members
  | .look _ => Count.states 1
  | .repeated body least most _ =>
    countRepeated (body.count backwards) (!body.leastSize.any (0 < ·)) least most
  | .capture _ body =>
    if backwards then body.count backwards
    else do
      Count.states 1
      body.count backwards
      Count.states 1
  | .concat parts => countParts backwards parts
  | .alternation branches =>
    match branches.mapM word? with
    | some words => countWords backwards words
    | none => countBranches backwards branches

/-- Counts the parts of a sequence, the last one first when text is read backwards. -/
def countParts (backwards : Bool) : List Expr → Count Unit
  | [] => pure ()
  | e :: rest =>
    if backwards then do
      countParts backwards rest
      e.count backwards
    else do
      e.count backwards
      countParts backwards rest

/-- Counts alternatives. The states where they part and where they meet come behind the second. -/
def countBranches (backwards : Bool) : List Expr → Count Unit
  | [] => pure ()
  | [e] => e.count backwards
  | e :: d :: rest => do
    e.count backwards
    d.count backwards
    Count.states 2
    Count.choices 2
    countMore backwards rest

/-- Counts further alternatives. -/
def countMore (backwards : Bool) : List Expr → Count Unit
  | [] => pure ()
  | e :: rest => do
    e.count backwards
    Count.choices 1
    countMore backwards rest

end

/-! ## The verdict -/

/-- Counts what comes before the expression: the loop over bytes, if there is one. -/
def countSearch (backwards : Bool) (e : Expr) : Count Unit :=
  if e.bound (if backwards then .textEnd else .textStart) backwards then Count.states 1
  else do
    Count.states 2
    Count.ranges 1
    Count.choices 2

/-- The tally of the whole automaton: a loop in front, the expression, noted as a group when text is
read forwards, and a state for the match. None if it is over the limit. -/
def weigh? (backwards : Bool) (e : Expr) : Option Tally :=
  let whole : Count Unit := do
    countSearch backwards e
    (Expr.capture 0 e).count backwards
    Count.states 1
  (whole.run {}).map (·.2)

/-- Is the expression a long list of words? -/
def isWordList : Expr → Bool
  | .alternation branches => 3000 ≤ branches.length && branches.all fun e => e.word?.isSome
  | _ => false

/-- Is the expression too heavy for a machine to be built? -/
def tooHeavy (e : Expr) : Bool :=
  !e.isWordList && ((e.weigh? false).isNone || (e.weigh? true).isNone)

end ScanRules.Pattern.Expr
