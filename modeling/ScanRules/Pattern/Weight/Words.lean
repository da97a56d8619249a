import ScanRules.Pattern.Weight.Tally

/-!
# The states of alternative words

Alternatives that are words only share states for their beginnings, as far as this does not change
which of them is preferred: a word that ends closes what has been put in before, and what comes
later is kept apart from it.

- `WordTree`: words with their common beginnings drawn together.
- `WordTree.insert`: adds a word that comes after all others.
- `WordTree.count`: counts the states of the words.
-/

namespace ScanRules.Pattern

/-- Words in a tree: a byte with what goes on `below` it and what there is `more` beside it, or the
end of a word with what came `earlier`. What came later stands in front of such an end. -/
inductive WordTree where
  | nothing
  | byte (b : UInt8) (below more : WordTree)
  | stop (earlier : WordTree)

namespace WordTree

/-- A single word. -/
def ofWord : List UInt8 → WordTree
  | [] => .stop .nothing
  | b :: rest => .byte b (ofWord rest) .nothing

/-- Adds a word. Only ways that came after the last end of a word are taken again. -/
def insert : WordTree → List UInt8 → WordTree
  | .byte b below more, c :: rest =>
    if b = c then .byte b (below.insert rest) more else .byte b below (more.insert (c :: rest))
  | .nothing, c :: rest => .byte c (ofWord rest) .nothing
  | .stop earlier, c :: rest => .byte c (ofWord rest) (.stop earlier)
  | .stop .nothing, [] => .stop .nothing
  | tree, [] => .stop tree

/-- The tree of some words. -/
def ofWords (words : List (List UInt8)) : WordTree :=
  words.foldl insert .nothing

/-- Does nothing go on here? -/
def isLeaf : WordTree → Bool
  | .nothing => true
  | .byte _ _ _ => false
  | .stop earlier => earlier.isLeaf

/-- Counts a state with the given number of ways, to which there is one choice more. -/
def countWays : (ways : Nat) → Count Unit
  | 0 => pure ()
  | 1 => do
    Count.states 1
    Count.choices 1
  | ways => do
    Count.ranges ways
    Count.choices 1

/-- Counts the states of a tree: those below it, one for each stretch of ways that no word ends in,
and one to choose between these and the ends. `ways` is the number of ways in the stretch so far. -/
def count : WordTree → (ways : Nat) → Count Unit
  | .nothing, ways => do
    countWays ways
    Count.states 1
  | .byte _ below more, ways => do
    if !below.isLeaf then below.count 0
    more.count (ways + 1)
  | .stop earlier, ways => do
    countWays ways
    Count.choices 1
    earlier.count 0

end WordTree

/-- Counts the states of alternative words in UTF-8. The first is where all of them end. -/
def countWords (backwards : Bool) (words : List (List Char)) : Count Unit := do
  let bytes := words.map fun word => word.flatMap String.utf8EncodeChar
  Count.states 1
  (WordTree.ofWords (if backwards then bytes.map List.reverse else bytes)).count 0

end ScanRules.Pattern
