import ScanRules.Proofs.Place
import ScanRules.Proofs.Scan.Step

/-!
# Scans within a text

A scan keeps only what is ahead of it, one character of what is behind it, and a running position.
Along every step this stays true to the whole text, and so the steps of a scan are the moves and
failures of the scanner at the places of the text.

- `Scan.Within`: the invariant. What is behind and what is ahead make up the text, and position and
  character belong to what is behind.
- `Scan.Within.of_step`: each step keeps it.
- `Scan.Within.moves_iff`, `Scan.Within.fails_iff`: a step, seen from the text.
- `Scan.Within.call_of_search`, `Scan.Within.eq_token_of_call`: the search for a token, seen from
  the text.
-/

namespace ScanRules

variable {S : Type}

theorem Rule.admittedOn_reverse_iff [DecidableEq S] {r : Rule S} {states : List S} :
    r.AdmittedOn states.reverse ↔ r.eligible states := by
  unfold AdmittedOn StackUse.eligible
  rw [List.getLast?_reverse]
  cases r.state with
  | none => simp
  | some s => simp [eq_comm]

/-- A transition leaves the stack that the rule is to leave, unless it pops an empty stack. -/
theorem Rule.transition?_eq_some_iff {r : Rule S} {states after : List S} :
    r.transition? states = some after ↔
      (r.pop → states.reverse ≠ []) ∧ after.reverse = r.stackAfter states.reverse := by
  unfold stackAfter StackUse.transition?
  constructor
  · intro h
    split at h
    · cases h
    · obtain rfl := Option.some.inj h
      simp [*]
    · obtain rfl := Option.some.inj h
      simp [*]
  · rintro ⟨hpop, hafter⟩
    rw [List.reverse_eq_iff] at hafter
    subst hafter
    split
    · next hp => exact absurd rfl (hpop hp)
    · simp [*]
    · simp [*]

namespace Scan

/-- The place of a scan. -/
def place (c : Scan S) : Place S := ⟨c.position.offset, c.states.reverse⟩

theorem place_advance (c : Scan S) (n : Nat) (states : List S) :
    (c.advance n states).place = ⟨(c.span n).stop, states.reverse⟩ := by
  simp [place, advance, span]

/-- The scan goes through this text, and what it keeps belongs to its place there. -/
def Within (text : String) (c : Scan S) : Prop :=
  ∃ front, text.toList = front ++ c.ahead ∧ c.before = front.getLast? ∧
    c.position = Position.behind front

theorem within_start (text : String) (states : List S) : (start text.toList states).Within text :=
  ⟨[], rfl, rfl, rfl⟩

namespace Within

variable {text : String} {c d : Scan S}

/-- Advancing keeps the scan within its text. -/
theorem advance (h : c.Within text) (n : Nat) (states : List S) :
    (c.advance n states).Within text := by
  obtain ⟨front, htext, hbefore, hposition⟩ := h
  refine ⟨front ++ c.ahead.take n, ?_, ?_, ?_⟩
  · show text.toList = front ++ c.ahead.take n ++ c.ahead.drop n
    rw [List.append_assoc, List.take_append_drop, htext]
  · show (c.ahead.take n).getLast?.or c.before = (front ++ c.ahead.take n).getLast?
    rw [hbefore, List.getLast?_append]
  · show c.position.advance (c.ahead.take n) = _
    rw [hposition, Position.advance_behind]

/-- The position of a scan is that of its offset in the whole text. -/
theorem inText? (h : c.Within text) :
    Position.inText? text.toList c.position.offset = some c.position := by
  obtain ⟨front, htext, -, hposition⟩ := h
  rw [htext, hposition, Position.behind_offset, Position.inText?_append]

/-- The next characters are the slice of the text that their span gives. -/
theorem slice?_span (h : c.Within text) (n : Nat) :
    slice? text.toList (c.span n) = some (c.ahead.take n) := by
  obtain ⟨front, htext, -, hposition⟩ := h
  have hsplit : text.toList = front ++ c.ahead.take n ++ c.ahead.drop n := by
    rw [List.append_assoc, List.take_append_drop, htext]
  rw [span, hposition, Position.behind_offset, hsplit, slice?_append]

/-- With nothing ahead, all of the text is behind. -/
theorem textBefore?_of_ahead_nil (h : c.Within text) (hnil : c.ahead = []) :
    textBefore? text.toList c.position.offset = some text.toList := by
  obtain ⟨front, htext, -, hposition⟩ := h
  rw [htext, hposition, Position.behind_offset, textBefore?_append, hnil, List.append_nil]

/-- The text is over iff the offset is its size. -/
theorem size_le_offset_iff (h : c.Within text) :
    byteSize text.toList ≤ c.position.offset ↔ c.ahead = [] := by
  obtain ⟨front, htext, -, hposition⟩ := h
  rw [htext, hposition, Position.behind_offset, byteSize_append, ← byteSize_eq_zero_iff]
  omega

theorem offset_lt_size_iff (h : c.Within text) :
    c.position.offset < byteSize text.toList ↔ c.ahead ≠ [] := by
  rw [Ne, ← h.size_le_offset_iff, Nat.not_le]

variable [DecidableEq S]

/-- What a rule takes at the place of a scan is what it reaches from there. -/
theorem takes_iff (h : c.Within text) {r : Rule S} {span : Span} :
    r.Takes text c.place span ↔
      r.eligible c.states ∧ ∃ n, r.reach c.before c.ahead = some n ∧ span = c.span n := by
  obtain ⟨front, htext, hbefore, hposition⟩ := h
  unfold Rule.Takes
  rw [← Rule.attemptAt_eq_some_iff, place, hposition, Position.behind_offset,
    r.attemptAt_of_append htext, ← hbefore, Option.map_eq_some_iff, Rule.admittedOn_reverse_iff]
  simp only [Scan.span, hposition, Position.behind_offset]
  constructor
  · rintro ⟨he, n, hn, rfl⟩
    exact ⟨he, n, hn, rfl⟩
  · rintro ⟨he, n, hn, rfl⟩
    exact ⟨he, n, hn, rfl⟩

theorem not_takes_iff (h : c.Within text) {r : Rule S} :
    (∀ span, ¬ r.Takes text c.place span) ↔
      (r.eligible c.states → r.reach c.before c.ahead = none) := by
  simp only [h.takes_iff, not_and]
  constructor
  · intro hnone he
    rw [Option.eq_none_iff_forall_ne_some]
    exact fun n hn => hnone _ he ⟨n, hn, rfl⟩
  · rintro hnone span he ⟨n, hn, -⟩
    cases (hnone he).symm.trans hn

theorem firstToTake_iff (h : c.Within text) {rules : List (Rule S)} {r : Rule S} {span : Span} :
    Rule.FirstToTake rules text c.place r span ↔
      ∃ n, c.firing? rules = some (r, n) ∧ span = c.span n := by
  simp only [firing?, Rule.firing?_eq_some_iff]
  constructor
  · rintro ⟨earlier, later, hrules, htakes, hearlier⟩
    obtain ⟨he, n, hn, hspan⟩ := h.takes_iff.1 htakes
    exact ⟨n, ⟨earlier, later, hrules, ⟨he, hn⟩,
      fun q hq => h.not_takes_iff.1 (hearlier q hq)⟩, hspan⟩
  · rintro ⟨n, ⟨earlier, later, hrules, ⟨he, hn⟩, hearlier⟩, hspan⟩
    exact ⟨earlier, later, hrules, h.takes_iff.2 ⟨he, n, hn, hspan⟩,
      fun q hq => h.not_takes_iff.2 (hearlier q hq)⟩

theorem firing?_eq_none_iff (h : c.Within text) {rules : List (Rule S)} :
    c.firing? rules = none ↔ ∀ r ∈ rules, ∀ span, ¬ r.Takes text c.place span := by
  simp only [firing?, Rule.firing?_eq_none_iff, h.not_takes_iff]

variable {scanner : Scanner S} {role : Role} {r : Rule S} {n : Nat}

theorem fires_iff (h : c.Within text) {span : Span} :
    scanner.Fires text c.place role r span ↔
      ∃ n, c.choice? scanner = some (role, r, n) ∧ span = c.span n := by
  constructor
  · rintro (hfirst | ⟨hnone, hfirst⟩)
    · obtain ⟨n, hn, rfl⟩ := h.firstToTake_iff.1 hfirst
      exact ⟨n, choice?_eq_ignored_iff.2 hn, rfl⟩
    · obtain ⟨n, hn, rfl⟩ := h.firstToTake_iff.1 hfirst
      exact ⟨n, choice?_eq_token_iff.2 ⟨h.firing?_eq_none_iff.2 hnone, hn⟩, rfl⟩
  · rintro ⟨n, hn, rfl⟩
    cases role with
    | token =>
      obtain ⟨hi, ht⟩ := choice?_eq_token_iff.1 hn
      exact .token (h.firing?_eq_none_iff.1 hi) (h.firstToTake_iff.2 ⟨n, ht, rfl⟩)
    | ignored => exact .ignored (h.firstToTake_iff.2 ⟨n, choice?_eq_ignored_iff.1 hn, rfl⟩)

theorem choice?_eq_none_iff (h : c.Within text) :
    c.choice? scanner = none ↔
      ∀ r ∈ scanner.ignored ++ scanner.rules, ∀ span, ¬ r.Takes text c.place span := by
  rw [Scan.choice?_eq_none_iff, h.firing?_eq_none_iff, h.firing?_eq_none_iff,
    List.forall_mem_append]

/-! ## Steps -/

/-- A rule that fires leads on within the text. -/
theorem of_step (h : c.Within text) (hstep : c.step scanner = .fired role r n d) :
    d.Within text := by
  obtain ⟨-, -, hfire⟩ := step_eq_fired_iff.1 hstep
  obtain ⟨states, -, rfl⟩ := fire_eq_ok hfire
  exact h.advance n states

/-- The scan takes a step where the scanner moves, and to the same place. -/
theorem moves_iff (h : c.Within text) {span : Span} {q : Place S} :
    scanner.Moves text c.place role r span q ↔
      ∃ n d, c.step scanner = .fired role r n d ∧ span = c.span n ∧ q = d.place := by
  constructor
  · rintro ⟨hend, hfires, hpop, rfl⟩
    obtain ⟨n, hn, rfl⟩ := h.fires_iff.1 hfires
    -- the rule does not pop an empty stack, so its transition leaves the stack it is to leave
    obtain ⟨states, hstates⟩ : ∃ states, r.transition? c.states = some states :=
      ⟨(r.stackAfter c.place.stack).reverse,
        Rule.transition?_eq_some_iff.2 ⟨hpop, List.reverse_reverse _⟩⟩
    refine ⟨n, c.advance n states, ?_, rfl, ?_⟩
    · rw [step_eq_fired_iff]
      exact ⟨h.offset_lt_size_iff.1 hend, hn, by rw [fire, hstates]⟩
    · rw [place_advance, (Rule.transition?_eq_some_iff.1 hstates).2]
      rfl
  · rintro ⟨n, d, hstep, rfl, rfl⟩
    obtain ⟨hne, hn, hfire⟩ := step_eq_fired_iff.1 hstep
    obtain ⟨states, hstates, rfl⟩ := fire_eq_ok hfire
    obtain ⟨hpop, hstack⟩ := Rule.transition?_eq_some_iff.1 hstates
    refine ⟨h.offset_lt_size_iff.2 hne, h.fires_iff.2 ⟨n, hn, rfl⟩, hpop, ?_⟩
    rw [place_advance, hstack]
    rfl

/-- The scan fails where the scanner fails, with the same error. -/
theorem fails_iff (h : c.Within text) {e : Error} :
    scanner.Fails text c.place e ↔ c.step scanner = .failed e := by
  rw [step_eq_failed_iff]
  constructor
  · rintro (⟨hend, hnone, hposition⟩ | ⟨hend, hfires, hpop, hstack, hposition⟩)
    · obtain rfl := Option.some.inj (h.inText?.symm.trans hposition)
      exact ⟨h.offset_lt_size_iff.1 hend, .inl ⟨h.choice?_eq_none_iff.2 hnone, rfl⟩⟩
    · obtain rfl := Option.some.inj (h.inText?.symm.trans hposition)
      obtain ⟨n, hn, -⟩ := h.fires_iff.1 hfires
      have hstates : c.states = [] := List.reverse_eq_nil_iff.1 hstack
      refine ⟨h.offset_lt_size_iff.1 hend, .inr ⟨_, _, n, hn, ?_⟩⟩
      rw [fire, (StackUse.transition?_eq_none_iff _ _).2 ⟨hpop, hstates⟩]
  · rintro ⟨hne, ⟨hnone, rfl⟩ | ⟨role, r, n, hn, hfire⟩⟩
    · exact .noMatch (h.offset_lt_size_iff.2 hne) (h.choice?_eq_none_iff.1 hnone) h.inText?
    · obtain ⟨htransition, rfl⟩ := fire_eq_error hfire
      obtain ⟨hpop, hstates⟩ := (StackUse.transition?_eq_none_iff _ _).1 htransition
      exact .underflow (h.offset_lt_size_iff.2 hne) (h.fires_iff.2 ⟨n, hn, rfl⟩) hpop
        (List.reverse_eq_nil_iff.2 hstates) h.inText?

/-- A search for a token stays within the text. -/
theorem of_search {o : Outcome S (Scan S) (Except Error (Option Token))}
    (hsearch : Search scanner c o) (h : c.Within text) : o.after.Within text := by
  induction hsearch with
  | ended | failed => exact h
  | found hstep => exact h.of_step hstep
  | skipped hstep _ ih => exact ih (h.of_step hstep)

/-! ## Calls -/

/-- A search for a token is a call at the place of the scan. -/
theorem call_of_search {o : Outcome S (Scan S) (Except Error (Option Token))}
    (hsearch : Search scanner c o) (h : c.Within text) :
    scanner.Call text c.place o.answer o.after.place := by
  induction hsearch with
  | ended hstep => exact .ended (h.size_le_offset_iff.2 (step_eq_ended_iff.1 hstep))
  | failed hstep => exact .failed (h.fails_iff.2 hstep)
  | found hstep =>
    exact .found (h.moves_iff.2 ⟨_, _, hstep, rfl, rfl⟩) (h.slice?_span _) h.inText?
  | skipped hstep _ ih =>
    exact .skipped (h.moves_iff.2 ⟨_, _, hstep, rfl, rfl⟩) (ih (h.of_step hstep))

/-- There is no other call at this place. -/
theorem eq_token_of_call {p q : Place S} {answer : Except Error (Option Token)}
    (hcall : scanner.Call text p answer q) :
    ∀ {c : Scan S}, c.Within text → c.place = p →
      answer = (c.token scanner).answer ∧ q = (c.token scanner).after.place := by
  -- each move of the call is the one step that the scan can take from there
  induction hcall with
  | ended hend =>
    rintro c h rfl
    rw [token_of_ended (step_eq_ended_iff.2 (h.size_le_offset_iff.1 hend))]
    exact ⟨rfl, rfl⟩
  | failed hfails =>
    rintro c h rfl
    rw [token_of_failed (h.fails_iff.1 hfails)]
    exact ⟨rfl, rfl⟩
  | found hmoves hslice hposition =>
    rintro c h rfl
    obtain ⟨n, d, hstep, rfl, rfl⟩ := h.moves_iff.1 hmoves
    obtain rfl := Option.some.inj ((h.slice?_span n).symm.trans hslice)
    obtain rfl := Option.some.inj (h.inText?.symm.trans hposition)
    rw [token_of_token hstep]
    exact ⟨rfl, rfl⟩
  | skipped hmoves _ ih =>
    rintro c h rfl
    obtain ⟨n, d, hstep, rfl, rfl⟩ := h.moves_iff.1 hmoves
    rw [token_of_ignored hstep]
    exact ih (h.of_step hstep) rfl

end Within

end Scan

end ScanRules
