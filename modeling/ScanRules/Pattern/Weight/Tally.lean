/-!
# Counting states

Counted repetitions let short patterns stand for very large machines. How large is found out by
counting states in the order in which they would be added, and counting stops as soon as they weigh
too much.

- `Tally`: the number of states so far, and what they weigh.
- `Count`: counting, which may come to an end.
- `Count.states`, `Count.ranges`, `Count.choices`: what adds to a tally.
- `Count.times`: a count that is made again and again.
-/

namespace ScanRules.Pattern

/-- The greatest weight that a pattern may have: 10 MiB. -/
def weightLimit : Nat := 10485760

/-- The weight of one state without ranges and choices. -/
def stateWeight : Nat := 32

/-- The weight of one of several ranges of a state. -/
def rangeWeight : Nat := 8

/-- The weight of one choice of a state. -/
def choiceWeight : Nat := 4

/-- What has been counted. The number of states is also the number of the next one. -/
structure Tally where
  states : Nat := 0
  weight : Nat := 0
  deriving DecidableEq, Repr

/-- Counting on from a tally. Nothing is left of it behind the limit. -/
abbrev Count := StateT Tally Option

namespace Count

/-- Adds to both numbers of a tally. -/
def add (states weight : Nat) : Count Unit := fun t =>
  let total := t.weight + weight
  if weightLimit < total then none else some ((), ⟨t.states + states, total⟩)

/-- Counts states without ranges and choices, among them those of one range. -/
def states (n : Nat) : Count Unit := add n (stateWeight * n)

/-- Counts one state with several ranges. -/
def ranges (n : Nat) : Count Unit := add 1 (stateWeight + rangeWeight * n)

/-- Counts choices of states that are there. -/
def choices (n : Nat) : Count Unit := add 0 (choiceWeight * n)

/-- Counts the same `n` times. -/
def times : (n : Nat) → Count Unit → Count Unit
  | 0, _ => pure ()
  | n + 1, once => do
    once
    times n once

end Count

end ScanRules.Pattern
