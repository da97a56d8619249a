import ScanRules.Pattern.Reader.Class
import ScanRules.Pattern.Reader.Group

/-!
# Reading patterns

From the text of a pattern to its tree.

- `OpenGroup`, `Reading`: what has been read so far: the open groups around the current place and
  the current sequence of items.
- `readItem`: one step, which takes at least one character off the text.
- `Tree.tooDeep?`: the first part, from the outside in, that is nested too deep.
- `Tree.ofText`: the whole pattern.

The readers see the text from the current place on and never what stands before it, so the same
text yields the same tree, extents included, wherever it stands.
-/

namespace ScanRules.Pattern

/-- A group whose closing parenthesis has not come yet, and the sequence that it interrupts. -/
structure OpenGroup where
  kind : GroupKind
  start : Nat
  branches : List Tree
  branchesStart : Nat
  items : List Tree
  itemsStart : Nat
  verbose : Bool

/-- The state of reading. `items` is the current sequence and `branches` are the finished branches
of the current group, both with the last one first. -/
structure Reading where
  outer : List OpenGroup
  branches : List Tree
  branchesStart : Nat
  items : List Tree
  itemsStart : Nat
  verbose : Bool
  names : GroupNames
  captures : Nat

namespace Reading

/-- The state in front of a text. -/
def start (verbose : Bool) (text : List Char) : Reading :=
  { outer := [], branches := [], branchesStart := text.length, items := [],
    itemsStart := text.length, verbose, names := [], captures := 0 }

/-- Appends an item to the current sequence. -/
def push (r : Reading) (item : Tree) : Reading :=
  { r with items := item :: r.items }

/-- The current sequence as one tree, if it stops at `stop`. -/
def sequence (r : Reading) (stop : Nat) : Tree :=
  match r.items.reverse with
  | [] => .empty ⟨r.itemsStart, stop⟩
  | [item] => item
  | items => .concat items ⟨r.itemsStart, stop⟩

/-- The inside of the current group as one tree, if it stops at `stop`. -/
def body (r : Reading) (stop : Nat) : Tree :=
  match r.branches with
  | [] => r.sequence stop
  | branches => .alternation (r.sequence stop :: branches).reverse ⟨r.branchesStart, stop⟩

/-- Ends the current branch in front of a bar, with `rest` after the bar. -/
def nextBranch (r : Reading) (rest : List Char) : Reading :=
  let branchesStart := if r.branches.isEmpty then r.itemsStart else r.branchesStart
  { r with
    branches := r.sequence (rest.length + 1) :: r.branches
    branchesStart
    items := []
    itemsStart := rest.length }

/-- Begins a group at `start`, with `rest` after its opening. -/
def openGroup (r : Reading) (kind : GroupKind) (start : Nat) (verbose : Bool)
    (rest : List Char) : Reading :=
  let group : OpenGroup :=
    { kind, start, branches := r.branches, branchesStart := r.branchesStart, items := r.items,
      itemsStart := r.itemsStart, verbose := r.verbose }
  { r with
    outer := group :: r.outer
    branches := []
    branchesStart := rest.length
    items := []
    itemsStart := rest.length
    verbose }

/-- Ends the current group, with `rest` after its closing parenthesis. -/
def closeGroup (r : Reading) (rest : List Char) : Except Fault Reading :=
  match r.outer with
  | [] => .error ⟨.groupUnopened, ⟨rest.length + 1, rest.length⟩, none⟩
  | g :: outer =>
    let group : Tree := .group g.kind (r.body (rest.length + 1)) ⟨g.start, rest.length⟩
    .ok { r with
      outer
      branches := g.branches
      branchesStart := g.branchesStart
      items := group :: g.items
      itemsStart := g.itemsStart
      verbose := g.verbose }

/-- Takes the item that a repetition mark in front of `text` refers to. -/
def takeItem (r : Reading) (text : List Char) : Except Fault (Tree × Reading) :=
  match r.items with
  | [] | .empty _ :: _ | .settings _ _ :: _ => .error ⟨.repetitionMissing, .before text, none⟩
  | item :: items => .ok (item, { r with items })

end Reading

/-- Reads the question mark that makes a repetition lazy. -/
def readLazyMark (text : List Char) : Bool × List Char :=
  match text with
  | '?' :: rest => (true, rest)
  | _ => (false, text)

/-- Applies `*`, `+` or `?`, with `rest` after it, to the last item. -/
def readMark (r : Reading) (least : Nat) (most : Option Nat) (mark : Char) (rest : List Char) :
    Except Fault (Reading × List Char) := do
  let (item, r) ← r.takeItem (mark :: rest)
  let (isLazy, remainder) := readLazyMark rest
  let extent : Extent := ⟨item.extent.start, remainder.length⟩
  return (r.push (.repetition item least most (!isLazy) extent), remainder)

/-- Reads a decimal number. The text after it is given back even if there is no number. -/
def readDecimal (verbose : Bool) (text : List Char) : Except Fault Nat × List Char :=
  let number := dropBlanks text
  let (digits, rest) := takeSpaced verbose Char.isDigit number
  let extent : Extent := ⟨number.length, rest.length⟩
  let value : Nat := digits.foldl (fun n d => 10 * n + (d.toNat - 48)) 0
  let result : Except Fault Nat :=
    if digits.isEmpty then .error ⟨.repetitionCountMissing, extent, none⟩
    else if value < UInt32.size then .ok value
    else .error ⟨.decimalInvalid, extent, none⟩
  (result, dropBlanks rest)

/-- Reads the counts of a repetition, the least and the greatest, up to the closing brace. -/
def readCounts (verbose : Bool) (start : Nat) (text : List Char) :
    Except Fault ((Nat × Option Nat) × List Char) :=
  let unclosed (rest : List Char) : Fault := ⟨.repetitionCountUnclosed, ⟨start, rest.length⟩, none⟩
  match readDecimal verbose text with
  | (_, []) => .error (unclosed [])
  | (least, ',' :: rest) =>
    match skipLayout verbose rest with
    | [] => .error (unclosed [])
    | '}' :: remainder => do return ((← least, none), '}' :: remainder)
    | afterComma => do
      let least ← least
      let (most, remainder) := readDecimal verbose afterComma
      return ((least, some (← most)), remainder)
  | (count, rest) => do
    let count ← count
    return ((count, some count), rest)

/-- Applies a counted repetition to the last item, `rest` being what follows the opening brace. -/
def readCounted (r : Reading) (rest : List Char) : Except Fault (Reading × List Char) := do
  let start := rest.length + 1
  let unclosed (rest : List Char) : Fault := ⟨.repetitionCountUnclosed, ⟨start, rest.length⟩, none⟩
  let (item, r) ← r.takeItem ('{' :: rest)
  match skipLayout r.verbose rest with
  | [] => .error (unclosed [])
  | inside =>
    let ((least, most), atBrace) ← readCounts r.verbose start inside
    match atBrace with
    | '}' :: afterBrace =>
      let (isLazy, remainder) := readLazyMark (skipLayout r.verbose afterBrace)
      if most.any (· < least) then
        .error ⟨.repetitionCountInvalid, ⟨start, remainder.length⟩, none⟩
      else
        let extent : Extent := ⟨item.extent.start, remainder.length⟩
        return (r.push (.repetition item least most (!isLazy) extent), remainder)
    | rest => .error (unclosed rest)

/-- Reads the opening of a group, `rest` being what follows the parenthesis. -/
def readGroup (r : Reading) (rest : List Char) : Except Fault (Reading × List Char) := do
  let start := rest.length + 1
  let (opening, remainder) ← readOpening r.verbose r.names rest
  match opening with
  | .settings settings =>
    let verbose := (settings.get? .verbose).getD r.verbose
    return ({ r.push (.settings settings ⟨start, remainder.length⟩) with verbose }, remainder)
  | .plain settings =>
    let verbose := (settings.get? .verbose).getD r.verbose
    return (r.openGroup (.plain settings) start verbose remainder, remainder)
  | .capture names =>
    let index := r.captures + 1
    let r := { r with names, captures := index }
    return (r.openGroup (.capture index) start r.verbose remainder, remainder)

/-- Reads the next piece of a pattern, which starts with `c`. -/
def readItem (r : Reading) (c : Char) (rest : List Char) :
    Except Fault (Reading × List Char) :=
  let here := Extent.ofFirst (c :: rest)
  match c with
  | '(' => readGroup r rest
  | ')' => do return (← r.closeGroup rest, rest)
  | '|' => .ok (r.nextBranch rest, rest)
  | '[' => do
    let (tree, remainder) ← readClass r.verbose rest
    return (r.push tree, remainder)
  | '?' => readMark r 0 (some 1) c rest
  | '*' => readMark r 0 none c rest
  | '+' => readMark r 1 none c rest
  | '{' => readCounted r rest
  | '\\' => do
    let (tree, remainder) ← readEscape r.verbose rest
    return (r.push tree, remainder)
  | '.' => .ok (r.push (.dot here), rest)
  | '^' => .ok (r.push (.assertion .lineStart here), rest)
  | '$' => .ok (r.push (.assertion .lineEnd here), rest)
  | _ => .ok (r.push (.literal ⟨c, false, here⟩), rest)

/-- Reads all pieces of a pattern; `skip` characters of the text have been read already. -/
def readItems (r : Reading) : (skip : Nat) → List Char → Except Fault Reading
  | _, [] => .ok r
  | skip + 1, _ :: rest => readItems r skip rest
  | 0, c :: rest =>
    match skipLayout r.verbose (c :: rest) with
    | [] => .ok r
    | d :: after =>
      if after.length < rest.length then readItems r (rest.length - after.length - 1) rest
      else
        match readItem r d after with
        | .error fault => .error fault
        | .ok (r, remainder) => readItems r (rest.length - remainder.length) rest

/-! ## Nesting -/

mutual

/-- The first part of a class below `depth` levels that is nested too deep. -/
def ClassTree.tooDeep? (depth : Nat) : ClassTree → Option Extent
  | .bracketed _ body e =>
    if depth ≥ nestingLimit then some e else body.tooDeep? (depth + 1)
  | .union items e =>
    if depth ≥ nestingLimit then some e else ClassTree.tooDeepIn? (depth + 1) items
  | .operation _ left right e =>
    if depth ≥ nestingLimit then some e
    else (left.tooDeep? (depth + 1)).or (right.tooDeep? (depth + 1))
  | _ => none

/-- The first part of some classes that is nested too deep. -/
def ClassTree.tooDeepIn? (depth : Nat) : List ClassTree → Option Extent
  | [] => none
  | item :: rest => (item.tooDeep? depth).or (ClassTree.tooDeepIn? depth rest)

end

mutual

/-- The first part of a pattern below `depth` levels that is nested too deep. -/
def Tree.tooDeep? (depth : Nat) : Tree → Option Extent
  | .bracketed _ body e =>
    if depth ≥ nestingLimit then some e else body.tooDeep? (depth + 1)
  | .repetition body _ _ _ e =>
    if depth ≥ nestingLimit then some e else body.tooDeep? (depth + 1)
  | .group _ body e =>
    if depth ≥ nestingLimit then some e else body.tooDeep? (depth + 1)
  | .concat parts e =>
    if depth ≥ nestingLimit then some e else Tree.tooDeepIn? (depth + 1) parts
  | .alternation branches e =>
    if depth ≥ nestingLimit then some e else Tree.tooDeepIn? (depth + 1) branches
  | _ => none

/-- The first part of some patterns that is nested too deep. -/
def Tree.tooDeepIn? (depth : Nat) : List Tree → Option Extent
  | [] => none
  | tree :: rest => (tree.tooDeep? depth).or (Tree.tooDeepIn? depth rest)

end

/-- Reads a pattern; `verbose` tells whether layout may stand in it from the start. -/
def Tree.ofText (verbose : Bool) (text : List Char) : Except Fault Tree := do
  let r ← readItems (.start verbose text) 0 text
  match r.outer with
  | g :: _ => .error ⟨.groupUnclosed, ⟨g.start, g.start - 1⟩, none⟩
  | [] =>
    let tree := r.body 0
    match tree.tooDeep? 0 with
    | some extent => .error ⟨.nestedTooDeep, extent, none⟩
    | none => return tree

end ScanRules.Pattern
