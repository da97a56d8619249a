import ScanRules.Event

/-!
# Scanners

- `Scanner`: the rules that make tokens and the rules whose matches are passed over, each in the
  order in which they are tried.
- `Rule.firing?`: the rule of a list that fires.
-/

namespace ScanRules

variable {S : Type}

/-- Two lists of rules. -/
structure Scanner (S : Type) where
  rules : List (Rule S) := []
  ignored : List (Rule S) := []

/-- The first rule of a list that may be tried on a stack and matches at the start of a text, with
the number of characters that it takes. -/
def Rule.firing? [DecidableEq S] (rules : List (Rule S)) (states : List S) (before : Option Char)
    (text : List Char) : Option (Rule S × Nat) :=
  rules.findSome? fun r =>
    if r.eligible states then (r.reach before text).map (r, ·) else none

theorem Rule.pos_of_firing? [DecidableEq S] {rules : List (Rule S)} {states : List S}
    {before : Option Char} {text : List Char} {r : Rule S} {n : Nat}
    (h : Rule.firing? rules states before text = some (r, n)) : 0 < n := by
  obtain ⟨q, -, hq⟩ := List.exists_of_findSome?_eq_some h
  split at hq
  · obtain ⟨m, hm, heq⟩ := Option.map_eq_some_iff.1 hq
    obtain ⟨-, rfl⟩ := Prod.mk.inj heq
    exact pos_of_reach hm
  · cases hq

end ScanRules
