import ScanRules.Proofs.Rule
import ScanRules.Scan
import ScanRules.Scanner.Builder

/-!
# Single steps of a scan

Skipping and finding a token are two loops, each with its own exits. Both are made of the same
steps: at one place of the text, one rule fires, or the text is over, or the scan fails.

- `Scan.choice?`: the rule that is to fire at a place, an ignored one before all others.
- `Scan.step`: what takes place there.
- `Scan.token_of_ended`, `Scan.token_of_failed`, `Scan.token_of_ignored`, `Scan.token_of_token`:
  finding a token is to take steps until one of them is not that of an ignored rule.
- `Scan.Search`, `Scan.search_token`: the same as a relation, to be used by induction on the steps.
-/

namespace ScanRules

namespace Scan

variable {S : Type}

/-- What takes place at one place of a text. -/
inductive Step (S : Type) where
  /-- The text is over. -/
  | ended
  /-- The scan fails. -/
  | failed (e : Error)
  /-- A rule takes so many characters and leads to another place. -/
  | fired (role : Role) (rule : Rule S) (count : Nat) (after : Scan S)

theorem fire_eq_error {c : Scan S} {r : Rule S} {n : Nat} {e : Error}
    (h : c.fire r n = .error e) :
    r.transition? c.states = none ∧ e = .underflow r.name c.position := by
  unfold fire at h
  split at h
  · cases h
  · next hs => exact ⟨hs, (Except.error.inj h).symm⟩

variable [DecidableEq S]

/-- The rule that is to fire at a place, with the number of characters that it takes. -/
def choice? (scanner : Scanner S) (c : Scan S) : Option (Role × Rule S × Nat) :=
  match c.firing? scanner.ignored with
  | some (r, n) => some (.ignored, r, n)
  | none => (c.firing? scanner.rules).map (.token, ·)

/-- One step. -/
def step (scanner : Scanner S) (c : Scan S) : Step S :=
  if c.ahead = [] then .ended
  else
    match c.choice? scanner with
    | none => .failed (.noMatch c.position)
    | some (role, r, n) =>
      match c.fire r n with
      | .error e => .failed e
      | .ok d => .fired role r n d

variable {scanner : Scanner S} {c d : Scan S} {r : Rule S} {n : Nat} {e : Error} {role : Role}

/-! ## What is chosen -/

/-- Here a list of rules fires where its front does, and else where the others do. -/
theorem firing?_append (front rules : List (Rule S)) (c : Scan S) :
    c.firing? (front ++ rules) = (c.firing? front).or (c.firing? rules) :=
  Rule.firing?_append front rules c.states c.before c.ahead

theorem choice?_eq_ignored_iff :
    c.choice? scanner = some (.ignored, r, n) ↔ c.firing? scanner.ignored = some (r, n) := by
  unfold choice?
  split
  · next q m h => simp [h]
  · next h => simp [h]

theorem choice?_eq_token_iff :
    c.choice? scanner = some (.token, r, n) ↔
      c.firing? scanner.ignored = none ∧ c.firing? scanner.rules = some (r, n) := by
  unfold choice?
  split
  · next q m h => simp [h]
  · next h => simp [h]

theorem choice?_eq_none_iff :
    c.choice? scanner = none ↔
      c.firing? scanner.ignored = none ∧ c.firing? scanner.rules = none := by
  unfold choice?
  split
  · next q m h => simp [h]
  · next h => simp [h]

/-- Whatever is chosen is the first of its list to fire. -/
theorem firing?_of_choice? (h : c.choice? scanner = some (role, r, n)) :
    ∃ rules, c.firing? rules = some (r, n) := by
  cases role with
  | token => exact ⟨_, (choice?_eq_token_iff.1 h).2⟩
  | ignored => exact ⟨_, choice?_eq_ignored_iff.1 h⟩

/-! ## What takes place -/

theorem step_eq_ended_iff : c.step scanner = .ended ↔ c.ahead = [] := by
  unfold step
  split
  · next h => simp [h]
  · next h =>
    split
    · simp [h]
    · split <;> simp [h]

theorem step_eq_failed_iff :
    c.step scanner = .failed e ↔ c.ahead ≠ [] ∧
      ((c.choice? scanner = none ∧ e = .noMatch c.position) ∨
        ∃ role r n, c.choice? scanner = some (role, r, n) ∧ c.fire r n = .error e) := by
  unfold step
  split
  · next h => simp [h]
  · next h =>
    split
    · next hc => simp [h, hc, eq_comm]
    · next role r n hc =>
      split
      · next e' he =>
        simp only [Step.failed.injEq, hc, reduceCtorEq, false_and, false_or, Option.some.injEq,
          Prod.mk.injEq]
        constructor
        · rintro rfl
          exact ⟨h, role, r, n, ⟨rfl, rfl, rfl⟩, he⟩
        · rintro ⟨-, _, _, _, ⟨rfl, rfl, rfl⟩, he'⟩
          exact Except.error.inj (he.symm.trans he')
      · next d hd =>
        simp only [reduceCtorEq, hc, false_and, false_or, Option.some.injEq, Prod.mk.injEq,
          false_iff]
        rintro ⟨-, _, _, _, ⟨rfl, rfl, rfl⟩, he⟩
        cases he.symm.trans hd

theorem step_eq_fired_iff :
    c.step scanner = .fired role r n d ↔
      c.ahead ≠ [] ∧ c.choice? scanner = some (role, r, n) ∧ c.fire r n = .ok d := by
  unfold step
  split
  · next h => simp [h]
  · next h =>
    split
    · next hc => simp [h, hc]
    · next role' r' n' hc =>
      split
      · next e he =>
        simp only [reduceCtorEq, hc, Option.some.injEq, Prod.mk.injEq, false_iff]
        rintro ⟨-, ⟨rfl, rfl, rfl⟩, hd⟩
        cases he.symm.trans hd
      · next d' hd =>
        simp only [Step.fired.injEq, hc, Option.some.injEq, Prod.mk.injEq]
        constructor
        · rintro ⟨rfl, rfl, rfl, rfl⟩
          exact ⟨h, ⟨rfl, rfl, rfl⟩, hd⟩
        · rintro ⟨-, ⟨rfl, rfl, rfl⟩, hd'⟩
          exact ⟨rfl, rfl, rfl, Except.ok.inj (hd.symm.trans hd')⟩

/-- A rule that fires leaves less text. -/
theorem length_ahead_of_step (h : c.step scanner = .fired role r n d) :
    d.ahead.length < c.ahead.length := by
  obtain ⟨hne, hchoice, hfire⟩ := step_eq_fired_iff.1 h
  obtain ⟨rules, hr⟩ := firing?_of_choice? hchoice
  have := Rule.pos_of_firing? hr
  have := List.length_pos_iff.2 hne
  rw [length_ahead_of_fire hfire]
  omega

/-! ## The two loops as steps -/

theorem skip_of_ahead_nil {ignored : List (Rule S)} (h : c.ahead = []) :
    c.skip ignored = ⟨.ok (), c, []⟩ := by
  rw [skip, dif_pos h]

theorem skip_of_firing?_none {ignored : List (Rule S)} (h : c.firing? ignored = none) :
    c.skip ignored = ⟨.ok (), c, []⟩ := by
  rw [skip]
  split
  · rfl
  · split
    · rfl
    · next hr => cases h.symm.trans hr

theorem skip_of_fire_error {ignored : List (Rule S)} (hne : c.ahead ≠ [])
    (hr : c.firing? ignored = some (r, n)) (he : c.fire r n = .error e) :
    c.skip ignored = ⟨.error e, c, []⟩ := by
  rw [skip, dif_neg hne]
  split
  · next h => cases h.symm.trans hr
  · next q m h =>
    obtain ⟨rfl, rfl⟩ := Prod.mk.inj (Option.some.inj (h.symm.trans hr))
    split
    · next e' he' => rw [Except.error.inj (he'.symm.trans he)]
    · next hd => cases hd.symm.trans he

theorem skip_of_fire_ok {ignored : List (Rule S)} (hne : c.ahead ≠ [])
    (hr : c.firing? ignored = some (r, n)) (hd : c.fire r n = .ok d) :
    c.skip ignored = (d.skip ignored).afterEvents (c.skipEvents r n d) := by
  rw [skip, dif_neg hne]
  split
  · next h => cases h.symm.trans hr
  · next q m h =>
    obtain ⟨rfl, rfl⟩ := Prod.mk.inj (Option.some.inj (h.symm.trans hr))
    split
    · next he => cases he.symm.trans hd
    · next d' hd' => rw [Except.ok.inj (hd'.symm.trans hd)]

/-- Once nothing can be skipped, a token has to start. -/
theorem token_of_skip (h : c.skip scanner.ignored = ⟨.ok (), c, []⟩) :
    c.token scanner = here scanner.rules c := by
  rw [token, h]
  rfl

theorem token_of_ended (h : c.step scanner = .ended) :
    c.token scanner = ⟨.ok none, c, [.ended]⟩ := by
  have hnil := step_eq_ended_iff.1 h
  rw [token_of_skip (skip_of_ahead_nil hnil), here, if_pos hnil]

theorem token_of_failed (h : c.step scanner = .failed e) :
    c.token scanner = ⟨.error e, c, []⟩ := by
  obtain ⟨hne, ⟨hnone, rfl⟩ | ⟨role, r, n, hchoice, hfire⟩⟩ := step_eq_failed_iff.1 h
  · obtain ⟨hi, ht⟩ := choice?_eq_none_iff.1 hnone
    simp only [token_of_skip (skip_of_firing?_none hi), here, if_neg hne, ht]
  · cases role with
    | token =>
      obtain ⟨hi, ht⟩ := choice?_eq_token_iff.1 hchoice
      simp only [token_of_skip (skip_of_firing?_none hi), here, if_neg hne, ht, hfire]
    | ignored =>
      rw [token, skip_of_fire_error hne (choice?_eq_ignored_iff.1 hchoice) hfire]

theorem token_of_token (h : c.step scanner = .fired .token r n d) :
    c.token scanner = ⟨.ok (some (c.tokenOf r n)), d, c.tokenEvents r n d⟩ := by
  obtain ⟨hne, hchoice, hfire⟩ := step_eq_fired_iff.1 h
  obtain ⟨hi, ht⟩ := choice?_eq_token_iff.1 hchoice
  simp only [token_of_skip (skip_of_firing?_none hi), here, if_neg hne, ht, hfire]

/-- An ignored rule that fires leaves the search for a token to the place behind it. -/
theorem token_of_ignored (h : c.step scanner = .fired .ignored r n d) :
    c.token scanner = (d.token scanner).afterEvents (c.skipEvents r n d) := by
  obtain ⟨hne, hchoice, hfire⟩ := step_eq_fired_iff.1 h
  rw [token, token, skip_of_fire_ok hne (choice?_eq_ignored_iff.1 hchoice) hfire]
  generalize d.skip scanner.ignored = o
  obtain ⟨answer, after, events⟩ := o
  cases answer with
  | error e => rfl
  | ok => simp [Outcome.afterEvents]

/-- A search for a token, step by step. -/
inductive Search (scanner : Scanner S) :
    Scan S → Outcome S (Scan S) (Except Error (Option Token)) → Prop
  | ended {c : Scan S} : c.step scanner = .ended → Search scanner c ⟨.ok none, c, [.ended]⟩
  | failed {c : Scan S} {e : Error} : c.step scanner = .failed e →
    Search scanner c ⟨.error e, c, []⟩
  | found {c d : Scan S} {r : Rule S} {n : Nat} : c.step scanner = .fired .token r n d →
    Search scanner c ⟨.ok (some (c.tokenOf r n)), d, c.tokenEvents r n d⟩
  | skipped {c d : Scan S} {r : Rule S} {n : Nat}
      {o : Outcome S (Scan S) (Except Error (Option Token))} :
    c.step scanner = .fired .ignored r n d → Search scanner d o →
    Search scanner c (o.afterEvents (c.skipEvents r n d))

/-- Finding a token is such a search, by induction on the text ahead, which gets shorter with each
step. -/
theorem search_token (scanner : Scanner S) (c : Scan S) :
    Search scanner c (c.token scanner) := by
  induction hlen : c.ahead.length using Nat.strongRecOn generalizing c with
  | _ len ih =>
    subst hlen
    match h : c.step scanner with
    | .ended => exact token_of_ended h ▸ .ended h
    | .failed e => exact token_of_failed h ▸ .failed h
    | .fired .token r n d => exact token_of_token h ▸ .found h
    | .fired .ignored r n d =>
      exact token_of_ignored h ▸ .skipped h (ih _ (length_ahead_of_step h) d rfl)

end Scan

end ScanRules
