import ScanRules.CharSet
import ScanRules.Pattern.Look

/-!
# Expressions

What a pattern means once its flags have been applied, in a form that is kept simple.

- `Expr`: characters, assertions, sequences, alternatives and repetitions.
- `Expr.leastSize`, `Expr.greatestSize`: bounds on the size of a match.
- `Expr.ofSet`, `Expr.sequence`, `Expr.choice`, `Expr.repeat`: the constructors that simplify. They
  join neighbouring characters, flatten sequences and alternatives, turn alternatives of single
  characters into a set, and draw what all alternatives begin with in front of them.

Drawing a common beginning in front decides which match is preferred: of `a?a|a?bc` it makes
`a?(?:a|bc)`, which tries both alternatives with `a` taken before it tries them without.
-/

namespace ScanRules.Pattern

/-- A pattern as it is matched. A set from a part of the pattern where Unicode is turned off is not
equal to the same set elsewhere. -/
inductive Expr where
  | empty
  | literal (chars : List Char)
  | set (members : CharSet) (unicode : Bool)
  | look (look : Look)
  | repeated (body : Expr) (least : Nat) (most : Option Nat) (greedy : Bool)
  | capture (index : Nat) (body : Expr)
  | concat (parts : List Expr)
  | alternation (branches : List Expr)

namespace Expr

/-! ## Equality -/

mutual

/-- Are two expressions built in the same way? -/
def same : Expr → Expr → Bool
  | .empty, .empty => true
  | .literal cs, .literal ds => cs == ds
  | .set s u, .set t v => s == t && u == v
  | .look l, .look m => l == m
  | .repeated a n x g, .repeated b m y h => n == m && x == y && g == h && same a b
  | .capture i a, .capture j b => i == j && same a b
  | .concat as, .concat bs => sameAll as bs
  | .alternation as, .alternation bs => sameAll as bs
  | _, _ => false

/-- Are two lists of expressions built in the same way? -/
def sameAll : List Expr → List Expr → Bool
  | [], [] => true
  | a :: as, b :: bs => same a b && sameAll as bs
  | _, _ => false

end

/-! ## Sizes of matches -/

/-- The number of bytes that a code point takes. -/
def sizeOfCodePoint (n : Nat) : Nat :=
  if n < 0x80 then 1 else if n < 0x800 then 2 else if n < 0x10000 then 3 else 4

/-- The sum of two sizes, if both are known. -/
def addSizes (a b : Option Nat) : Option Nat :=
  match a, b with
  | some m, some n => some (m + n)
  | _, _ => none

mutual

/-- The size in bytes of the shortest match; none if nothing can match. -/
def leastSize : Expr → Option Nat
  | .empty => some 0
  | .literal cs => some ((cs.map Char.utf8Size).sum)
  | .set s _ => s.ranges.head?.map fun r => sizeOfCodePoint r.first
  | .look _ => some 0
  | .repeated body least _ _ => body.leastSize.map (· * least)
  | .capture _ body => body.leastSize
  | .concat parts => leastSizeOfAll parts
  | .alternation branches => leastSizeOfAny branches

/-- The least size of a sequence. -/
def leastSizeOfAll : List Expr → Option Nat
  | [] => some 0
  | e :: rest => addSizes e.leastSize (leastSizeOfAll rest)

/-- The least size of alternatives, known only if it is known of all. -/
def leastSizeOfAny : List Expr → Option Nat
  | [] => none
  | [e] => e.leastSize
  | e :: rest => e.leastSize.bind fun m => (leastSizeOfAny rest).map (min m)

end

mutual

/-- The size in bytes of the longest match; none if there is no bound or nothing can match. -/
def greatestSize : Expr → Option Nat
  | .empty => some 0
  | .literal cs => some ((cs.map Char.utf8Size).sum)
  | .set s _ => s.ranges.getLast?.map fun r => sizeOfCodePoint r.last
  | .look _ => some 0
  | .repeated body _ most _ => most.bind fun n => body.greatestSize.map (· * n)
  | .capture _ body => body.greatestSize
  | .concat parts => greatestSizeOfAll parts
  | .alternation branches => greatestSizeOfAny branches

/-- The greatest size of a sequence. -/
def greatestSizeOfAll : List Expr → Option Nat
  | [] => some 0
  | e :: rest => addSizes e.greatestSize (greatestSizeOfAll rest)

/-- The greatest size of alternatives, known only if it is known of all. -/
def greatestSizeOfAny : List Expr → Option Nat
  | [] => none
  | [e] => e.greatestSize
  | e :: rest => e.greatestSize.bind fun m => (greatestSizeOfAny rest).map (max m)

end

/-! ## Simplifying constructors -/

/-- The expression that matches nothing. -/
def fail : Expr := .set .empty false

/-- One character of a set. -/
def ofSet (members : CharSet) (unicode : Bool) : Expr :=
  if members.isEmpty then fail
  else
    match members.only? with
    | some c => .literal [c]
    | none => .set members unicode

/-- Repeats `body`. An expression that matches only the empty text is repeated once at most. -/
def «repeat» (body : Expr) (least : Nat) (most : Option Nat) (greedy : Bool) : Expr :=
  let (least, most) :=
    if body.greatestSize = some 0 then (min least 1, some ((most.map (min · 1)).getD 1))
    else (least, most)
  if least = 0 ∧ most = some 0 then .empty
  else if least = 1 ∧ most = some 1 then body
  else .repeated body least most greedy

/-- The parts that an expression contributes to a sequence. -/
def partsOf : Expr → List Expr
  | .empty => []
  | .concat parts => parts
  | e => [e]

/-- Puts a part in front of a sequence, joining characters. -/
def joinPart (e : Expr) (rest : List Expr) : List Expr :=
  match e, rest with
  | .literal cs, .literal ds :: more => .literal (cs ++ ds) :: more
  | e, rest => e :: rest

/-- A sequence. -/
def sequence (es : List Expr) : Expr :=
  match (es.flatMap partsOf).foldr joinPart [] with
  | [] => .empty
  | [e] => e
  | parts => .concat parts

/-- The branches that an expression contributes to alternatives. -/
def branchesOf : Expr → List Expr
  | .alternation branches => branches
  | e => [e]

/-- The character of an expression that is one character. -/
def char? : Expr → Option Char
  | .literal [c] => some c
  | _ => none

/-- The members of an expression that is a set. -/
def members? : Expr → Option CharSet
  | .set members _ => some members
  | _ => none

/-- The set that alternatives make up together, if all are characters or all are sets. -/
def commonSet? (branches : List Expr) : Option CharSet :=
  match branches.mapM char? with
  | some cs => some (.ofRanges (cs.map fun c => ⟨c.toNat, c.toNat⟩))
  | none => (branches.mapM members?).map fun sets => sets.foldl (· ∪ ·) .empty

/-- What two lists of parts begin with in common. -/
def commonPrefix : List Expr → List Expr → List Expr
  | a :: as, b :: bs => if same a b then a :: commonPrefix as bs else []
  | _, _ => []

/-- The parts of a sequence. -/
def concatParts? : Expr → Option (List Expr)
  | .concat parts => some parts
  | _ => none

/-- What all branches begin with, together with what remains of each, if all are sequences. -/
def liftPrefix? (branches : List Expr) : Option (List Expr × List (List Expr)) :=
  match branches.mapM concatParts? with
  | none | some [] => none
  | some (first :: rest) =>
    match rest.foldl commonPrefix first with
    | [] => none
    | shared => some (shared, (first :: rest).map (·.drop shared.length))

/-- Alternatives from which no common beginning can be drawn. -/
def flatChoice (branches : List Expr) : Expr :=
  match branches with
  | [] => fail
  | [e] => e
  | _ =>
    match commonSet? branches with
    | some members => ofSet members true
    | none => .alternation branches

/-- Alternatives, the first preferred. `depth` bounds how often a beginning is drawn in front. -/
def choiceWithin : (depth : Nat) → List Expr → Expr
  | 0, es => flatChoice es
  | depth + 1, es =>
    let branches := es.flatMap branchesOf
    match branches with
    | [] => fail
    | [e] => e
    | _ =>
      match commonSet? branches with
      | some members => ofSet members true
      | none =>
        match liftPrefix? branches with
        | none => .alternation branches
        | some (shared, remainders) =>
          sequence (shared ++ [choiceWithin depth (remainders.map sequence)])

/-- Alternatives, the first preferred. A bound of 2 is enough: behind a beginning that has been
drawn in front there is no other one (`choiceWithin_of_meanings`). -/
def choice (es : List Expr) : Expr :=
  choiceWithin 2 es

end Expr

end ScanRules.Pattern
