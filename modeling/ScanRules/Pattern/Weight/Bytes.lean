import ScanRules.CharSet
import ScanRules.Pattern.Weight.Tally

/-!
# The states of a set

A set is matched byte by byte. Of a set of ASCII characters, all ranges belong to one state. The
characters of other sets are sequences of bytes, and these share states. Where text is read
forwards, sequences that begin alike share the states for their beginnings, and states are shared
that have the same ranges, which lead to the same states. Where it is read backwards, sequences that
begin alike end in the same states.

States are shared as far as they are remembered: each is remembered in a slot, in place of the one
before. Which slot this is depends on the numbers of the states that it leads to, and so does what
is shared.

- `byteSequences`: the sequences of byte ranges that make up a set in UTF-8.
- `ByteTree`: sequences with their common beginnings drawn together.
- `Slots`, `remember`: states that are found again.
- `countSet`: counts the states of a set.
-/

namespace ScanRules.Pattern

/-! ## Byte sequences -/

/-- A sequence of ranges of bytes. -/
abbrev ByteSequence := List (Nat × Nat)

/-- The sequences of the code points from `a` to `b`, all of which have `continuing` bytes after the
first, in ascending order. Leading bytes are numbered from 0 for each length of sequence and
continuing bytes from 0 to 63. -/
def sequencesBetween : (continuing : Nat) → (a b : Nat) → List ByteSequence
  | 0, a, b => [[(a, b)]]
  | k + 1, a, b =>
    let block := 64 ^ (k + 1)
    let first := a / block
    let last := b / block
    if first = last then (sequencesBetween k (a % block) (b % block)).map ((first, first) :: ·)
    else
      let fromStart := a % block == 0
      let toEnd := b % block == block - 1
      let low := if fromStart then first else first + 1
      let high := if toEnd then last + 1 else last
      (if fromStart then []
        else (sequencesBetween k (a % block) (block - 1)).map ((first, first) :: ·)) ++
      (if low < high then [(low, high - 1) :: List.replicate (k + 1) (0, 63)] else []) ++
      (if toEnd then []
        else (sequencesBetween k 0 (b % block)).map ((last, last) :: ·))

/-- The code points of each length in UTF-8, surrogates left out, with the number of continuing
bytes and the leading byte of number 0. -/
def lengthClasses : List (Nat × Nat × CharRange) :=
  [(0, 0x00, ⟨0, 0x7F⟩), (1, 0xC0, ⟨0x80, 0x7FF⟩), (2, 0xE0, ⟨0x800, 0xD7FF⟩),
    (2, 0xE0, ⟨0xE000, 0xFFFF⟩), (3, 0xF0, ⟨0x10000, maxCodePoint⟩)]

/-- The bytes of a sequence of numbers. -/
def bytesOfNumbers (leading : Nat) : ByteSequence → ByteSequence
  | [] => []
  | (first, last) :: rest =>
    (leading + first, leading + last) :: rest.map fun (first, last) => (0x80 + first, 0x80 + last)

/-- The byte sequences of a set, in ascending order. -/
def byteSequences (s : CharSet) : List ByteSequence :=
  s.ranges.flatMap fun r =>
    lengthClasses.flatMap fun (continuing, leading, c) =>
      let low := max r.first c.first
      let high := min r.last c.last
      if low ≤ high then (sequencesBetween continuing low high).map (bytesOfNumbers leading) else []

/-- Byte sequences with their common beginnings drawn together: a range, what goes on `below` it,
and what there is `more` beside it. -/
inductive ByteTree where
  | stop
  | way (first last : Nat) (below more : ByteTree)

namespace ByteTree

/-- Puts a sequence in front of others. -/
def insert : ByteSequence → ByteTree → ByteTree
  | [], tree => tree
  | (first, last) :: rest, .way a b below more =>
    if first = a ∧ last = b then .way a b (insert rest below) more
    else .way first last (insert rest .stop) (.way a b below more)
  | (first, last) :: rest, .stop => .way first last (insert rest .stop) .stop

/-- The tree of some sequences in ascending order. -/
def ofSequences (sequences : List ByteSequence) : ByteTree :=
  sequences.foldr insert .stop

end ByteTree

/-! ## States that are found again -/

/-- What is remembered in slots: here that of number 0, on the left those of odd numbers and on the
right the others. -/
inductive Slots where
  | empty
  | node (entry : Option (List Nat × Nat)) (left right : Slots)

namespace Slots

/-- What is remembered in a slot. -/
def find? : Slots → (slot : Nat) → Option (List Nat × Nat)
  | .empty, _ => none
  | .node entry left right, slot =>
    if slot = 0 then entry
    else if slot % 2 = 1 then left.find? (slot / 2)
    else right.find? (slot / 2 - 1)

/-- The slot here, and those on the left and on the right. -/
def parts : Slots → Option (List Nat × Nat) × Slots × Slots
  | .empty => (none, .empty, .empty)
  | .node entry left right => (entry, left, right)

/-- Remembers an entry in a slot that is less than `depth` levels down. -/
def putWithin (entry : List Nat × Nat) : (depth : Nat) → (slot : Nat) → Slots → Slots
  | 0, _, slots => slots
  | depth + 1, slot, slots =>
    let (old, left, right) := slots.parts
    if slot = 0 then .node (some entry) left right
    else if slot % 2 = 1 then .node old (putWithin entry depth (slot / 2) left) right
    else .node old left (putWithin entry depth (slot / 2 - 1) right)

/-- Remembers an entry in a slot, in place of the one that is there. -/
def put (slots : Slots) (slot : Nat) (entry : List Nat × Nat) : Slots :=
  putWithin entry (slot + 1) slot slots

end Slots

/-- Counting with states that are found again. -/
abbrev SharedCount := StateT Slots Count

/-- The hash of some numbers, which are taken up one after the other. -/
def hashOf (key : List Nat) : UInt64 :=
  key.foldl (fun hash n => (hash ^^^ n.toUInt64) * 1099511628211) 14695981039346656037

/-- The number of the state with a key, which is counted if it is not remembered. There are as many
slots as `capacity` says. -/
def remember (capacity : Nat) (key : List Nat) (count : Count Unit) : SharedCount Nat := do
  let slot := (hashOf key).toNat % capacity
  match ((← get).find? slot).filter (·.1 = key) with
  | some (_, number) => return number
  | none =>
    let number := (← getThe Tally).states
    count
    modify (·.put slot (key, number))
    return number

/-- The number of a state with some ranges. The key has three numbers for each range: its ends, and
the number of the state that it leads to. -/
def rememberRanges (key : List Nat) : SharedCount Nat :=
  remember 10000 key (Count.ranges (key.length / 3))

/-- Counts what is below a node of a tree, and gives the key of the node. Sequences lead to
`target`. -/
def ByteTree.key (target : Nat) : ByteTree → SharedCount (List Nat)
  | .stop => return []
  | .way first last below more => do
    let next ← match below with
      | .stop => pure target
      | .way _ _ _ _ => do rememberRanges (← below.key target)
    return first :: last :: next :: (← more.key target)

/-- Counts the states of a sequence for reading it backwards, and gives the number of the one that
it starts with. The first range of bytes is read last and leads to `target`. -/
def rememberSequence (target : Nat) (sequence : ByteSequence) : SharedCount Nat :=
  sequence.foldlM (fun next (first, last) => remember 1000 [next, first, last] (Count.states 1))
    target

/-! ## Sets -/

/-- Counts the states of a set. -/
def countSet (backwards : Bool) (s : CharSet) : Count Unit := do
  if s.ranges.all (·.last < 0x80) then
    Count.states 1
    Count.ranges s.ranges.length
  else if backwards then
    Count.states 1
    let target := (← get).states
    Count.states 1
    let each (sequence : ByteSequence) : SharedCount Unit := do
      let _ ← rememberSequence target sequence
      Count.choices 1
    ((byteSequences s).forM each).run' .empty
  else
    let target := (← get).states
    Count.states 1
    let root : SharedCount Nat := do
      rememberRanges (← (ByteTree.ofSequences (byteSequences s)).key target)
    let _ ← root.run' .empty

end ScanRules.Pattern
