import ScanRules.Proofs.Scan.Course
import ScanRules.Proofs.Scan.Within

/-!
# Walks

Rules that fire one after the other, for as long as one likes. A walk need not go on to the end.

- `Scan.Walk`: the steps of rules in a row. `Scan.Fired.events` are the events of one of them.
- `Scan.Walk.offset_lt`, `Scan.Walk.length_add_le`: every step leads on in the text and takes up at
  least one character of it.
- `Scan.Walk.between`: all that fires in a walk lies between its ends.
- `Scan.Walk.stack_eq`: what a walk does to the stack.
- `Scan.Stops`, `Scan.Search.exists_walk`: a search for a token is a walk of ignored rules, and then
  one more step.
- `Scan.SkipStops`, `Scan.exists_walk_skip`: passing over what is ignored is such a walk, too.
- `Scan.Walk.exists_of_chain`: steps without end would make walks of any length.
- `Scan.Course.exists_walk`: a course is a walk up to where the scan ends.
- `Scan.Walk.course`, `Scan.Course.exists_walks`: courses put together and taken apart.
-/

namespace ScanRules

namespace Scan

variable {S : Type}

/-- The events of a rule that fires. -/
def Fired.events (f : Fired S) : List (Event S) :=
  match f.role with
  | .ignored => f.source.skipEvents f.rule f.count f.target
  | .token => f.source.tokenEvents f.rule f.count f.target

variable [DecidableEq S]

/-- Rules that fire in a row lead from one scan to another. -/
inductive Walk (scanner : Scanner S) : Scan S → List (Fired S) → Scan S → Prop
  | nil {c : Scan S} : Walk scanner c [] c
  | cons {c d last : Scan S} {role : Role} {r : Rule S} {n : Nat} {fired : List (Fired S)} :
    c.step scanner = .fired role r n d → Walk scanner d fired last →
    Walk scanner c (⟨c, role, r, n, d⟩ :: fired) last

/-- The step that ends a search: it is not that of an ignored rule. -/
inductive Stops (scanner : Scanner S) (c : Scan S) :
    Outcome S (Scan S) (Except Error (Option Token)) → Prop
  | ended : c.step scanner = .ended → Stops scanner c ⟨.ok none, c, [.ended]⟩
  | failed {e : Error} : c.step scanner = .failed e → Stops scanner c ⟨.error e, c, []⟩
  | found {d : Scan S} {r : Rule S} {n : Nat} : c.step scanner = .fired .token r n d →
    Stops scanner c ⟨.ok (some (c.tokenOf r n)), d, c.tokenEvents r n d⟩

/-- Why no more is passed over: the text is over, or no ignored rule fires, or one fails. -/
inductive SkipStops (scanner : Scanner S) (c : Scan S) : Except Error Unit → Prop
  | ended : c.ahead = [] → SkipStops scanner c (.ok ())
  | idle : c.firing? scanner.ignored = none → SkipStops scanner c (.ok ())
  | failed {e : Error} : c.step scanner = .failed e → SkipStops scanner c (.error e)

variable {scanner : Scanner S} {c d : Scan S} {role : Role} {r : Rule S} {n : Nat}
  {fired : List (Fired S)}

/-! ## One step -/

/-- A rule that fires leads on in the text. -/
theorem offset_lt_of_step (h : c.step scanner = .fired role r n d) :
    c.position.offset < d.position.offset := by
  obtain ⟨hne, hchoice, hfire⟩ := step_eq_fired_iff.1 h
  obtain ⟨rules, hr⟩ := firing?_of_choice? hchoice
  obtain ⟨states, -, rfl⟩ := fire_eq_ok hfire
  have htaken : c.ahead.take n ≠ [] := by
    rw [Ne, List.take_eq_nil_iff, not_or]
    exact ⟨Nat.ne_of_gt (Rule.pos_of_firing? hr), hne⟩
  have hpos : 0 < byteSize (c.ahead.take n) :=
    Nat.pos_of_ne_zero fun hzero => htaken (byteSize_eq_zero_iff.1 hzero)
  show c.position.offset < (c.position.advance (c.ahead.take n)).offset
  rw [Position.advance_offset]
  omega

/-- A rule does not take more than there is. -/
theorem le_length_of_step (h : c.step scanner = .fired role r n d) : n ≤ c.ahead.length := by
  obtain ⟨-, hchoice, -⟩ := step_eq_fired_iff.1 h
  obtain ⟨rules, hr⟩ := firing?_of_choice? hchoice
  obtain ⟨_, _, -, ⟨-, hreach⟩, -⟩ := Rule.firing?_eq_some_iff.1 hr
  exact Pattern.Machine.match?_le (Option.filter_eq_some_iff.1 hreach).1

/-- A step leads to where the span that it takes up stops. -/
theorem offset_of_step (h : c.step scanner = .fired role r n d) :
    d.position.offset = (c.span n).stop := by
  obtain ⟨-, -, hfire⟩ := step_eq_fired_iff.1 h
  obtain ⟨states, -, rfl⟩ := fire_eq_ok hfire
  exact Position.advance_offset ..

/-- A rule that fires leaves the stack that it is to leave. -/
theorem stack_of_step (h : c.step scanner = .fired role r n d) :
    d.place.stack = r.stackAfter c.place.stack := by
  obtain ⟨-, -, hfire⟩ := step_eq_fired_iff.1 h
  obtain ⟨states, hstates, rfl⟩ := fire_eq_ok hfire
  exact (Rule.transition?_eq_some_iff.1 hstates).2

/-! ## Steps in a row -/

namespace Walk

theorem append {last : Scan S} {more : List (Fired S)} (h : Walk scanner c fired d)
    (h' : Walk scanner d more last) : Walk scanner c (fired ++ more) last := by
  induction h with
  | nil => exact h'
  | cons hstep _ ih => exact .cons hstep (ih h')

/-- What fires in a walk is a step. -/
theorem step_of_mem (h : Walk scanner c fired d) {f : Fired S} (hf : f ∈ fired) :
    f.source.step scanner = .fired f.role f.rule f.count f.target := by
  induction h with
  | nil => cases hf
  | cons hstep _ ih =>
    rcases List.mem_cons.1 hf with rfl | hf
    · exact hstep
    · exact ih hf

/-- A walk stays within the text. -/
theorem within {input : String} (h : Walk scanner c fired d) (hw : c.Within input) :
    d.Within input := by
  induction h with
  | nil => exact hw
  | cons hstep _ ih => exact ih (hw.of_step hstep)

/-- Each of the rules that fire leads on in the text. -/
theorem offset_lt (h : Walk scanner c fired d) :
    ∀ f ∈ fired, f.source.position.offset < f.target.position.offset :=
  fun _ hf => offset_lt_of_step (h.step_of_mem hf)

/-- Walks lead on, and all that fires in them lies between their ends. -/
theorem between (h : Walk scanner c fired d) :
    c.position.offset ≤ d.position.offset ∧ ∀ f ∈ fired,
      c.position.offset < f.target.position.offset ∧
        f.target.position.offset ≤ d.position.offset := by
  induction h with
  | nil => exact ⟨Nat.le_refl _, fun _ hf => nomatch hf⟩
  | @cons c d last role r n rest hstep _ ih =>
    have hlt := offset_lt_of_step hstep
    obtain ⟨hle, hrest⟩ := ih
    refine ⟨Nat.le_of_lt (Nat.lt_of_lt_of_le hlt hle), List.forall_mem_cons.2 ⟨⟨hlt, hle⟩, ?_⟩⟩
    intro f hf
    exact ⟨Nat.lt_trans hlt (hrest f hf).1, (hrest f hf).2⟩

/-- A walk takes up at least as many characters as rules fire in it. -/
theorem length_add_le (h : Walk scanner c fired d) :
    fired.length + d.ahead.length ≤ c.ahead.length := by
  induction h with
  | nil => rw [List.length_nil, Nat.zero_add]
  | cons hstep _ ih =>
    have := length_ahead_of_step hstep
    rw [List.length_cons]
    omega

/-- The rules of a walk change the stack one after the other. -/
theorem stack_eq (h : Walk scanner c fired d) :
    d.place.stack = fired.foldl (fun stack f => f.rule.stackAfter stack) c.place.stack := by
  induction h with
  | nil => rfl
  | cons hstep _ ih => rw [ih, List.foldl_cons, stack_of_step hstep]

end Walk

/-- If rules went on firing forever, there would be a walk of any length. -/
theorem Walk.exists_of_chain {chain : Nat → Scan S}
    (h : ∀ i, ∃ role r n, (chain i).step scanner = .fired role r n (chain (i + 1))) (k : Nat) :
    ∃ fired, Walk scanner (chain 0) fired (chain k) ∧ fired.length = k := by
  induction k with
  | zero => exact ⟨[], .nil, rfl⟩
  | succ k ih =>
    obtain ⟨fired, hwalk, hlength⟩ := ih
    obtain ⟨role, r, n, hstep⟩ := h k
    refine ⟨fired ++ [⟨chain k, role, r, n, chain (k + 1)⟩], hwalk.append (.cons hstep .nil), ?_⟩
    rw [List.length_append, hlength, List.length_singleton]

/-! ## The loops as walks -/

/-- A search walks over ignored rules up to the step that ends it. -/
theorem Search.exists_walk {o : Outcome S (Scan S) (Except Error (Option Token))}
    (h : Search scanner c o) :
    ∃ skipped d o', Walk scanner c skipped d ∧ (∀ f ∈ skipped, f.role = .ignored) ∧
      Stops scanner d o' ∧ o = o'.afterEvents (skipped.flatMap Fired.events) := by
  induction h with
  | ended hstep => exact ⟨[], _, _, .nil, List.forall_mem_nil _, .ended hstep, rfl⟩
  | failed hstep => exact ⟨[], _, _, .nil, List.forall_mem_nil _, .failed hstep, rfl⟩
  | found hstep => exact ⟨[], _, _, .nil, List.forall_mem_nil _, .found hstep, rfl⟩
  | @skipped c d r n o hstep _ ih =>
    obtain ⟨skipped, e, o', hwalk, hignored, hstops, rfl⟩ := ih
    refine ⟨⟨c, .ignored, r, n, d⟩ :: skipped, e, o', .cons hstep hwalk, ?_, hstops, ?_⟩
    · exact List.forall_mem_cons.2 ⟨rfl, hignored⟩
    · simp [Outcome.afterEvents, Fired.events]

/-- To pass over what is ignored is to walk over ignored rules until there is a reason to stop. -/
theorem exists_walk_skip (scanner : Scanner S) (c : Scan S) :
    ∃ skipped, Walk scanner c skipped (c.skip scanner.ignored).after ∧
      (∀ f ∈ skipped, f.role = .ignored) ∧
      SkipStops scanner (c.skip scanner.ignored).after (c.skip scanner.ignored).answer := by
  fun_induction skip scanner.ignored c with
  | case1 c hnil => exact ⟨[], .nil, List.forall_mem_nil _, .ended hnil⟩
  | case2 c _ hnone => exact ⟨[], .nil, List.forall_mem_nil _, .idle hnone⟩
  | case3 c hne r n hr e he =>
    have hstep : c.step scanner = .failed e :=
      step_eq_failed_iff.2 ⟨hne, .inr ⟨.ignored, r, n, choice?_eq_ignored_iff.2 hr, he⟩⟩
    exact ⟨[], .nil, List.forall_mem_nil _, .failed hstep⟩
  | case4 c hne r n hr d hd ih =>
    obtain ⟨skipped, hwalk, hignored, hstops⟩ := ih
    have hstep : c.step scanner = .fired .ignored r n d :=
      step_eq_fired_iff.2 ⟨hne, choice?_eq_ignored_iff.2 hr, hd⟩
    exact ⟨_, .cons hstep hwalk, List.forall_mem_cons.2 ⟨rfl, hignored⟩, hstops⟩

/-- The step behind which there is none. -/
def Step.last : Option Error → Step S
  | none => .ended
  | some e => .failed e

/-- A course walks to a place where the text is over or the scan fails. -/
theorem Course.exists_walk {last : Scan S} {stopped : Option Error}
    (h : Course scanner c fired last stopped) :
    Walk scanner c fired last ∧ last.step scanner = .last stopped := by
  induction h with
  | ended hstep => exact ⟨.nil, hstep⟩
  | failed hstep => exact ⟨.nil, hstep⟩
  | fired hstep _ ih => exact ⟨.cons hstep ih.1, ih.2⟩

/-- A walk and the course behind it make one course. -/
theorem Walk.course {last : Scan S} {rest : List (Fired S)} {stopped : Option Error}
    (h : Walk scanner c fired d) (hcourse : Course scanner d rest last stopped) :
    Course scanner c (fired ++ rest) last stopped := by
  induction h with
  | nil => exact hcourse
  | cons hstep _ ih => exact .fired hstep (ih hcourse)

/-- A course is a walk up to anything that fires in it, and a walk from there on. -/
theorem Course.exists_walks {last : Scan S} {stopped : Option Error}
    (h : Course scanner c fired last stopped) {f : Fired S} (hf : f ∈ fired) :
    ∃ front rest, fired = front ++ rest ∧ Walk scanner c front f.target ∧
      Walk scanner f.target rest last := by
  induction h with
  | ended | failed => cases hf
  | @fired c d last role r n rest stopped hstep hrest ih =>
    rcases List.mem_cons.1 hf with rfl | hf
    · exact ⟨[_], rest, rfl, .cons hstep .nil, hrest.exists_walk.1⟩
    · obtain ⟨front, back, rfl, hfront, hback⟩ := ih hf
      exact ⟨_ :: front, back, rfl, .cons hstep hfront, hback⟩

end Scan

end ScanRules
