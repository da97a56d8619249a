import ScanRules.Proofs.Checked.Position
import ScanRules.Proofs.Scan.Within

/-!
# Scanning with checks

The two loops once more, for a scan that keeps an offset and a stack and cuts all that it needs out
of the whole text. Every cut and every sum is checked, and where one fails there is no result.

- `Checked.Spot`, `Checked.Spot.take?`: what such a scan keeps, and how it takes the text of a span.
- `Checked.firing?`: the rule that fires, seen from the whole text.
- `Checked.skip?`, `Checked.here?`, `Checked.token?`: the loops.
- `Scan.Within.take?_spot`, `Scan.Within.firing?_spot`: one step, next to that of a scan without
  checks.
- `Scan.Within.skip?_spot`, `Scan.Within.token?_spot`: no check fails within a text whose size is
  below the limit, and the loops come to what they come to without checks.
-/

namespace ScanRules

namespace Checked

/-- A position and a stack, the top first. -/
structure Spot (S : Type) where
  position : Position
  states : List S
  deriving DecidableEq, Repr

variable {S : Type}

/-- Takes the text of a span: cuts it out and goes behind it, with another stack. -/
def Spot.take? (limit : Nat) (text : String) (p : Spot S) (span : Span) (states : List S) :
    Option (String × Spot S) := do
  let word ← slice? text.toList span
  let position ← advance? limit text.toList p.position span
  return (String.ofList word, ⟨position, states⟩)

theorem Spot.offset_of_take? {limit : Nat} {text : String} {p : Spot S} {span : Span}
    {states : List S} {word : String} {q : Spot S}
    (h : p.take? limit text span states = some (word, q)) :
    span.start = p.position.offset ∧ q.position.offset = span.stop := by
  unfold take? at h
  obtain ⟨_, -, h⟩ := Option.bind_eq_some_iff.1 h
  obtain ⟨position, hposition, h⟩ := Option.bind_eq_some_iff.1 h
  obtain ⟨-, rfl⟩ := Prod.mk.inj (Option.some.inj h)
  exact offset_of_advance? hposition

/-- The bytes of a token, if their end is not over the limit. -/
def span? (limit : Nat) (t : Token) : Option Span :=
  (sum? limit t.position.offset (byteSize t.text.toList)).map fun _ => t.span

variable [DecidableEq S]

/-- The first rule of a list that may be tried on a stack and takes some text at an offset, with the
span of this text. -/
def firing? (rules : List (Rule S)) (states : List S) (text : String) (offset : Nat) :
    Option (Rule S × Span) :=
  rules.findSome? fun r =>
    if r.eligible states then (r.attemptAt text offset).map (r, ·) else none

theorem start_lt_stop_of_firing? {rules : List (Rule S)} {states : List S} {text : String}
    {offset : Nat} {r : Rule S} {span : Span}
    (h : firing? rules states text offset = some (r, span)) : span.start < span.stop := by
  obtain ⟨q, -, hq⟩ := List.exists_of_findSome?_eq_some h
  split at hq
  · obtain ⟨span', hspan, heq⟩ := Option.map_eq_some_iff.1 hq
    obtain ⟨-, rfl⟩ := Prod.mk.inj heq
    exact (Rule.attemptAt_eq_some_iff.1 hspan).2
  · cases hq

/-- Passes over the matches of ignored rules. -/
def skip? (limit : Nat) (ignored : List (Rule S)) (text : String) (p : Spot S) :
    Option (Except Error Unit × Spot S) :=
  if _ : byteSize text.toList ≤ p.position.offset then some (.ok (), p)
  else
    match _ : firing? ignored p.states text p.position.offset with
    | none => some (.ok (), p)
    | some (r, span) =>
      match r.transition? p.states with
      | none => some (.error (.underflow r.name p.position), p)
      | some states =>
        match _ : p.take? limit text span states with
        | none => none
        | some (_, q) => skip? limit ignored text q
termination_by byteSize text.toList - p.position.offset
decreasing_by
  rename_i hr _ hq
  have := start_lt_stop_of_firing? hr
  have := Spot.offset_of_take? hq
  omega

variable {limit : Nat} {ignored : List (Rule S)} {text : String} {p q : Spot S} {r : Rule S}
  {span : Span} {states : List S} {word : String}

theorem skip?_of_end (h : byteSize text.toList ≤ p.position.offset) :
    skip? limit ignored text p = some (.ok (), p) := by
  rw [skip?, dif_pos h]

theorem skip?_of_firing?_none (h : firing? ignored p.states text p.position.offset = none) :
    skip? limit ignored text p = some (.ok (), p) := by
  rw [skip?]
  split
  · rfl
  · split
    · rfl
    · next hr => cases h.symm.trans hr

theorem skip?_of_transition?_none (hend : ¬ byteSize text.toList ≤ p.position.offset)
    (hr : firing? ignored p.states text p.position.offset = some (r, span))
    (hs : r.transition? p.states = none) :
    skip? limit ignored text p = some (.error (.underflow r.name p.position), p) := by
  rw [skip?, dif_neg hend]
  split
  · next h => cases h.symm.trans hr
  · next r' span' h =>
    obtain ⟨rfl, rfl⟩ := Prod.mk.inj (Option.some.inj (h.symm.trans hr))
    rw [hs]

/-- Where a rule fires and its text can be taken, skipping goes on behind this text. -/
theorem skip?_of_take? (hend : ¬ byteSize text.toList ≤ p.position.offset)
    (hr : firing? ignored p.states text p.position.offset = some (r, span))
    (hs : r.transition? p.states = some states)
    (hq : p.take? limit text span states = some (word, q)) :
    skip? limit ignored text p = skip? limit ignored text q := by
  rw [skip?, dif_neg hend]
  split
  · next h => cases h.symm.trans hr
  · next r' span' h =>
    obtain ⟨rfl, rfl⟩ := Prod.mk.inj (Option.some.inj (h.symm.trans hr))
    simp only [hs]
    split
    · next h => cases h.symm.trans hq
    · next q' h =>
      obtain ⟨-, rfl⟩ := Prod.mk.inj (Option.some.inj (h.symm.trans hq))
      rfl

/-- Finds the token that starts here. -/
def here? (limit : Nat) (rules : List (Rule S)) (text : String) (p : Spot S) :
    Option (Except Error (Option Token) × Spot S) :=
  if byteSize text.toList ≤ p.position.offset then some (.ok none, p)
  else
    match firing? rules p.states text p.position.offset with
    | none => some (.error (.noMatch p.position), p)
    | some (r, span) =>
      match r.transition? p.states with
      | none => some (.error (.underflow r.name p.position), p)
      | some states => do
        let (word, q) ← p.take? limit text span states
        let _ ← span? limit ⟨r.name, word, p.position⟩
        return (.ok (some ⟨r.name, word, p.position⟩), q)

/-- Finds the next token. -/
def token? (limit : Nat) (scanner : Scanner S) (text : String) (p : Spot S) :
    Option (Except Error (Option Token) × Spot S) := do
  let (answer, q) ← skip? limit scanner.ignored text p
  match answer with
  | .error e => return (.error e, q)
  | .ok () => here? limit scanner.rules text q

end Checked

namespace Scan

variable {S : Type}

/-- The spot of a scan. -/
def spot (c : Scan S) : Checked.Spot S := ⟨c.position, c.states⟩

@[simp] theorem spot_position (c : Scan S) : c.spot.position = c.position := rfl

@[simp] theorem spot_states (c : Scan S) : c.spot.states = c.states := rfl

namespace Within

variable {text : String} {c : Scan S} {limit : Nat}

/-- To take the next characters goes well. -/
theorem take?_spot (h : c.Within text) (hlimit : byteSize text.toList < limit) (n : Nat)
    (states : List S) :
    c.spot.take? limit text (c.span n) states = some (c.text n, (c.advance n states).spot) := by
  have hslice := h.slice?_span n
  obtain ⟨front, htext, -, hposition⟩ := h
  have hsplit : text.toList = front ++ c.ahead.take n ++ c.ahead.drop n := by
    rw [List.append_assoc, List.take_append_drop, htext]
  have hadvance : Checked.advance? limit text.toList c.position (c.span n) =
      some (c.position.advance (c.ahead.take n)) := by
    rw [span, hposition, hsplit, Position.behind_offset]
    exact Checked.advance?_behind (hsplit ▸ hlimit)
  simp only [Checked.Spot.take?, spot, hslice, hadvance, Option.bind_eq_bind, Option.bind_some,
    Option.pure_def]
  rfl

/-- The end of the token is not over the limit. -/
theorem span?_tokenOf (h : c.Within text) (hlimit : byteSize text.toList < limit) (r : Rule S)
    (n : Nat) : Checked.span? limit (c.tokenOf r n) = some (c.tokenOf r n).span := by
  obtain ⟨front, htext, -, hposition⟩ := h
  have hsize : byteSize front + byteSize (c.ahead.take n) ≤ byteSize text.toList := by
    conv_rhs => rw [htext, ← List.take_append_drop n c.ahead]
    rw [byteSize_append, byteSize_append]
    omega
  have hword : (c.tokenOf r n).text.toList = c.ahead.take n := String.toList_ofList
  have hoffset : (c.tokenOf r n).position.offset = byteSize front := by
    rw [tokenOf, hposition, Position.behind_offset]
  rw [Checked.span?, hword, hoffset, Checked.sum?_of_le (by omega), Option.map_some]

variable [DecidableEq S]

/-- The rule that fires in the whole text is the one that fires ahead. -/
theorem firing?_spot (h : c.Within text) (rules : List (Rule S)) :
    Checked.firing? rules c.states text c.position.offset =
      (c.firing? rules).map fun (r, n) => (r, c.span n) := by
  obtain ⟨front, htext, hbefore, hposition⟩ := h
  -- both lists are searched in the same order, so it is enough to compare rule by rule
  simp only [Checked.firing?, firing?, Rule.firing?, List.map_findSome?]
  congr 1
  funext r
  rw [hposition, Position.behind_offset, r.attemptAt_of_append htext, ← hbefore]
  by_cases he : r.eligible c.states
  · simp only [Function.comp_apply, he, if_true, Option.map_map, Scan.span, hposition,
      Position.behind_offset]
    rfl
  · simp only [Function.comp_apply, he]
    rfl

/-- Skipping stays within the text. -/
theorem skip (h : c.Within text) (ignored : List (Rule S)) :
    (c.skip ignored).after.Within text := by
  fun_induction Scan.skip ignored c with
  | case1 | case2 | case3 => exact h
  | case4 c _ r n _ d hfire ih =>
    obtain ⟨states, -, rfl⟩ := fire_eq_ok hfire
    exact ih (h.advance n states)

/-- No check fails while ignored text is skipped. -/
theorem skip?_spot (h : c.Within text) (hlimit : byteSize text.toList < limit)
    (ignored : List (Rule S)) :
    Checked.skip? limit ignored text c.spot =
      some ((c.skip ignored).answer, (c.skip ignored).after.spot) := by
  -- the two loops take the same way, and the lemmas about the checked one give one round of it
  fun_induction Scan.skip ignored c with
  | case1 c hend => exact Checked.skip?_of_end (h.size_le_offset_iff.2 hend)
  | case2 c _ hnone =>
    refine Checked.skip?_of_firing?_none ?_
    exact (h.firing?_spot ignored).trans (congrArg _ hnone)
  | case3 c hend r n hr e hfire =>
    obtain ⟨hs, rfl⟩ := fire_eq_error hfire
    have hfiring := (h.firing?_spot ignored).trans (congrArg _ hr)
    exact Checked.skip?_of_transition?_none (mt h.size_le_offset_iff.1 hend) hfiring hs
  | case4 c hend r n hr d hfire ih =>
    obtain ⟨states, hs, rfl⟩ := fire_eq_ok hfire
    rw [Outcome.afterEvents_answer, Outcome.afterEvents_after, ← ih (h.advance n states)]
    have hfiring := (h.firing?_spot ignored).trans (congrArg _ hr)
    exact Checked.skip?_of_take? (mt h.size_le_offset_iff.1 hend) hfiring hs
      (h.take?_spot hlimit n states)

/-- No check fails where a token is to start. -/
theorem here?_spot (h : c.Within text) (hlimit : byteSize text.toList < limit)
    (rules : List (Rule S)) :
    Checked.here? limit rules text c.spot =
      some ((c.here rules).answer, (c.here rules).after.spot) := by
  have hfiring := h.firing?_spot rules
  simp only [Checked.here?, here, spot_position, spot_states, h.size_le_offset_iff, hfiring]
  by_cases hend : c.ahead = []
  · simp only [hend, if_true]
  · simp only [hend, if_false]
    cases c.firing? rules with
    | none => rfl
    | some found =>
      obtain ⟨r, n⟩ := found
      cases hfire : c.fire r n with
      | error e =>
        obtain ⟨hs, rfl⟩ := fire_eq_error hfire
        simp only [Option.map_some, hs, hfire]
      | ok d =>
        obtain ⟨states, hs, rfl⟩ := fire_eq_ok hfire
        have hspan : Checked.span? limit ⟨r.name, c.text n, c.position⟩ = some _ :=
          h.span?_tokenOf hlimit r n
        simp only [Option.map_some, hs, h.take?_spot hlimit, hspan, hfire, tokenOf,
          Option.bind_eq_bind, Option.bind_some, Option.pure_def]

/-- No check fails while the next token is found. -/
theorem token?_spot (h : c.Within text) (hlimit : byteSize text.toList < limit)
    (scanner : Scanner S) :
    Checked.token? limit scanner text c.spot =
      some ((c.token scanner).answer, (c.token scanner).after.spot) := by
  have hskip := h.skip?_spot hlimit scanner.ignored
  have hwithin := h.skip scanner.ignored
  rw [Checked.token?, token, hskip]
  generalize c.skip scanner.ignored = o at hwithin ⊢
  obtain ⟨answer, after, events⟩ := o
  cases answer with
  | error e => rfl
  | ok => exact hwithin.here?_spot hlimit scanner.rules

end Within

end Scan

end ScanRules
