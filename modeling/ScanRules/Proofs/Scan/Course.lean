import Mathlib.Data.List.Forall2
import Mathlib.Data.Option.Basic
import ScanRules.Proofs.Scan.Step

/-!
# Courses

All the steps of a scan, up to the one that ends it.

- `Scan.Fired`, `Scan.Fired.token?`: a step in which a rule fires, and the token that it makes.
- `Scan.Course`: steps in a row to the end of the text or to an error.
- `Scan.exists_course`: every scan has a course, as each step leaves less text.
- `Scan.Step.Matches`, `Scan.Course.of_matches`: where each step of one scanner matches that of
  another one, their courses match as a whole.
-/

namespace ScanRules

namespace Scan

variable {S : Type}

/-- A rule that fires between two places. -/
structure Fired (S : Type) where
  source : Scan S
  role : Role
  rule : Rule S
  count : Nat
  target : Scan S

/-- The token that is made, with the stack behind it, unless the rule is an ignored one. -/
def Fired.token? (f : Fired S) : Option (Token × List S) :=
  match f.role with
  | .ignored => none
  | .token => some (f.source.tokenOf f.rule f.count, f.target.states)

/-! ## Steps that match -/

/-- Two rules of two scanners fire alike: they lead from the same place to the same place. -/
structure Fired.Matches (fires : Role → Rule S → Role → Rule S → Prop) (f g : Fired S) : Prop where
  source_eq : f.source = g.source
  fires : fires f.role f.rule g.role g.rule
  count_eq : f.count = g.count
  target_eq : f.target = g.target

/-- Two steps of two scanners match: both find the text over, or fail in ways that match, or are
those of rules that fire alike. -/
inductive Step.Matches (fires : Role → Rule S → Role → Rule S → Prop)
    (stops : Error → Error → Prop) : Step S → Step S → Prop
  | ended : Matches fires stops .ended .ended
  | failed {e e' : Error} : stops e e' → Matches fires stops (.failed e) (.failed e')
  | fired {role role' : Role} {r r' : Rule S} {n : Nat} {d : Scan S} : fires role r role' r' →
    Matches fires stops (.fired role r n d) (.fired role' r' n d)

variable {fires : Role → Rule S → Role → Rule S → Prop} {stops : Error → Error → Prop}

namespace Step.Matches

variable {e : Error} {role : Role} {r : Rule S} {n : Nat} {d : Scan S} {step : Step S}

theorem eq_ended (h : Matches fires stops .ended step) : step = .ended := by
  cases h
  rfl

theorem exists_failed (h : Matches fires stops (.failed e) step) :
    ∃ e', step = .failed e' ∧ stops e e' := by
  cases h with
  | failed hstops => exact ⟨_, rfl, hstops⟩

theorem exists_fired (h : Matches fires stops (.fired role r n d) step) :
    ∃ role' r', step = .fired role' r' n d ∧ fires role r role' r' := by
  cases h with
  | fired hfires => exact ⟨_, _, rfl, hfires⟩

end Step.Matches

/-! ## Steps in a row -/

variable [DecidableEq S]

/-- The steps of a scan: what fires on the way, where the last step finds the text over or fails,
and with which error. -/
inductive Course (scanner : Scanner S) :
    Scan S → List (Fired S) → Scan S → Option Error → Prop
  | ended {c : Scan S} : c.step scanner = .ended → Course scanner c [] c none
  | failed {c : Scan S} {e : Error} : c.step scanner = .failed e → Course scanner c [] c (some e)
  | fired {c d last : Scan S} {role : Role} {r : Rule S} {n : Nat} {rest : List (Fired S)}
      {stopped : Option Error} :
    c.step scanner = .fired role r n d → Course scanner d rest last stopped →
    Course scanner c (⟨c, role, r, n, d⟩ :: rest) last stopped

/-- Every scan has a course, by induction on the text ahead. -/
theorem exists_course (scanner : Scanner S) (c : Scan S) :
    ∃ fired last stopped, Course scanner c fired last stopped := by
  induction hlen : c.ahead.length using Nat.strongRecOn generalizing c with
  | _ len ih =>
    subst hlen
    match h : c.step scanner with
    | .ended => exact ⟨[], c, none, .ended h⟩
    | .failed e => exact ⟨[], c, some e, .failed h⟩
    | .fired role r n d =>
      obtain ⟨rest, last, stopped, hrest⟩ := ih _ (length_ahead_of_step h) d rfl
      exact ⟨⟨c, role, r, n, d⟩ :: rest, last, stopped, .fired h hrest⟩

/-- Where all steps of two scanners match, so do their courses. -/
theorem Course.of_matches {scanner other : Scanner S}
    (hsteps : ∀ c : Scan S, Step.Matches fires stops (c.step scanner) (c.step other))
    {c last : Scan S} {fired : List (Fired S)} {stopped : Option Error}
    (h : Course scanner c fired last stopped) :
    ∃ fired' stopped', Course other c fired' last stopped' ∧
      List.Forall₂ (Fired.Matches fires) fired fired' ∧ Option.Rel stops stopped stopped' := by
  induction h with
  | @ended c hstep =>
    have hother := (hstep ▸ hsteps c).eq_ended
    exact ⟨[], none, .ended hother, .nil, .none⟩
  | @failed c e hstep =>
    obtain ⟨e', hother, hstops⟩ := (hstep ▸ hsteps c).exists_failed
    exact ⟨[], some e', .failed hother, .nil, .some hstops⟩
  | @fired c d last role r n rest stopped hstep _ ih =>
    -- both scanners stand at `d` now, so what follows can be taken over as it is
    obtain ⟨role', r', hother, hfires⟩ := (hstep ▸ hsteps c).exists_fired
    obtain ⟨rest', stopped', hcourse, hrest, hstops⟩ := ih
    exact ⟨_, stopped', .fired hother hcourse, .cons ⟨rfl, hfires, rfl, rfl⟩ hrest, hstops⟩

end Scan

end ScanRules
