import ScanRules.Proofs.Scan.Walk
import ScanRules.Proofs.Session.Next

/-!
# Runs of a session

A run calls for tokens until there are none, and every call takes steps until it has its token. All
the same, a run takes one step after the other.

- `Session.run_of_error`, `Session.run_of_none`, `Session.run_of_some`: a run, call by call.
- `Session.next_of_skipped`, `Session.run_of_next_eq`: to pass over ignored text changes neither the
  next call nor the run, except for the events.
- `Session.run_eq_of_course`, `Session.run_of_course`: the run of a session is the course of its
  scan.
-/

namespace ScanRules

namespace Session

variable {S : Type} [DecidableEq S] {s s' : Session S} {events : List (Event S)}

theorem run_of_error {e : Error} (h : s.next = ⟨.error e, s', events⟩) :
    s.run = ⟨⟨[], some e⟩, s', events⟩ := by
  rw [run, h]

theorem run_of_none (h : s.next = ⟨.ok none, s', events⟩) :
    s.run = ⟨⟨[], none⟩, s', events⟩ := by
  rw [run, h]

theorem run_of_some {t : Token} (h : s.next = ⟨.ok (some t), s', events⟩) :
    s.run = ⟨{ s'.run.answer with tokens := (t, s'.scan.states) :: s'.run.answer.tokens },
      s'.run.after, events ++ s'.run.events⟩ := by
  rw [run, h]

/-- Sessions whose next calls agree have runs that agree. -/
theorem run_of_next_eq (h : s.next = s'.next.afterEvents events) :
    s.run = s'.run.afterEvents events := by
  generalize hnext : s'.next = o at h
  obtain ⟨answer, after, more⟩ := o
  match answer with
  | .error e =>
    rw [run_of_error h, run_of_error hnext]
    rfl
  | .ok none =>
    rw [run_of_none h, run_of_none hnext]
    rfl
  | .ok (some t) =>
    rw [run_of_some h, run_of_some hnext]
    simp [Outcome.afterEvents]

/-- An ignored rule that fires leaves the call to the place behind it. -/
theorem next_of_skipped {r : Rule S} {n : Nat} {d : Scan S} (hf : s.failure = none)
    (h : s.scan.step s.scanner = .fired .ignored r n d) :
    s.next = ({ s with scan := d } : Session S).next.afterEvents (s.scan.skipEvents r n d) := by
  have hskip := Scan.token_of_ignored h
  cases ht : (d.token s.scanner).answer with
  | ok found =>
    have ht' : (s.scan.token s.scanner).answer = .ok found := hskip ▸ ht
    rw [next_of_ok hf ht', hskip]
    rw [next_of_ok (s := { s with scan := d }) hf ht]
    rfl
  | error e =>
    have ht' : (s.scan.token s.scanner).answer = .error e := hskip ▸ ht
    rw [next_of_error hf ht', hskip]
    rw [next_of_error (s := { s with scan := d }) hf ht]
    rfl

/-- The run of a session is the course of its scan, by induction on the course: it has the tokens
that are made on the way, ends where the course ends, and in the same way, and reports what is
reported on the way and the end of the text if it gets there. -/
theorem run_eq_of_course {scanner : Scanner S} {c last : Scan S} {fired : List (Scan.Fired S)}
    {stopped : Option Error} (h : Scan.Course scanner c fired last stopped) :
    ∀ {s : Session S}, s.scanner = scanner → s.scan = c → s.failure = none →
      s.run = ⟨⟨fired.filterMap (·.token?), stopped⟩,
        { s with scan := last, failure := stopped },
        fired.flatMap (·.events) ++ if stopped = none then [.ended] else []⟩ := by
  induction h with
  | ended hstep =>
    rintro ⟨_, _, _, _, _⟩ rfl rfl rfl
    have ht := Scan.token_of_ended hstep
    rw [run_of_none (next_of_ok rfl (congrArg Outcome.answer ht)), ht]
    rfl
  | failed hstep =>
    rintro ⟨_, _, _, _, _⟩ rfl rfl rfl
    have ht := Scan.token_of_failed hstep
    rw [run_of_error (next_of_error rfl (congrArg Outcome.answer ht)), ht]
    rfl
  | @fired c d last role r n rest stopped hstep _ ih =>
    rintro s rfl rfl hf
    have hrest := @ih { s with scan := d } rfl rfl hf
    cases role with
    | token =>
      have ht := Scan.token_of_token hstep
      rw [run_of_some (next_of_ok hf (congrArg Outcome.answer ht)), ht, hrest, List.flatMap_cons,
        List.append_assoc]
      rfl
    | ignored =>
      rw [run_of_next_eq (next_of_skipped hf hstep), hrest, List.flatMap_cons, List.append_assoc]
      rfl

/-- The tokens of the course, and where it ends. -/
theorem run_of_course {scanner : Scanner S} {c last : Scan S} {fired : List (Scan.Fired S)}
    {stopped : Option Error} (h : Scan.Course scanner c fired last stopped) {s : Session S}
    (hscanner : s.scanner = scanner) (hscan : s.scan = c) (hf : s.failure = none) :
    s.run.answer = ⟨fired.filterMap (·.token?), stopped⟩ ∧ s.run.after.scan = last := by
  rw [run_eq_of_course h hscanner hscan hf]
  exact ⟨rfl, rfl⟩

end Session

end ScanRules
