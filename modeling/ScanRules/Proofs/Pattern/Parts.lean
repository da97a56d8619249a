import Mathlib.Data.List.Basic
import ScanRules.Proofs.Pattern.Blind
import ScanRules.Proofs.Pattern.Exploring

/-!
# Parts of machines

Some states of a machine may refer to each other only, so that its threads stay among them. Such a
part can also stand in another machine, under other numbers.

- `State.targets`, `State.renamed`, `Machine.Closed`: the states that a state refers to, and parts.
- `Machine.Copied`: a part of one machine stands in another.
- `Machine.Copied.reached_eq`, `Machine.Copied.run_eq`: there it does the same.
- `Machine.matchFrom_append`: where two parts have only accepting states in common, what is matched
  from states of both is the match from those of the first, or else from those of the second.
-/

namespace ScanRules.Pattern

namespace State

/-- The states that a state refers to. -/
def targets : State → List Nat
  | .accept => []
  | .take _ next | .check _ next => [next]
  | .split choices => choices

/-- The state with other numbers for those that it refers to. -/
def renamed (φ : Nat → Nat) : State → State
  | .accept => .accept
  | .take members next => .take members (φ next)
  | .split choices => .split (choices.map φ)
  | .check look next => .check look (φ next)

end State

namespace Machine

variable {m p : Machine} {S T : Nat → Prop} {φ : Nat → Nat} {before after : Option Char}
  {todo more threads extra : List Nat} {f g f' : Frontier} {i j : Nat}

theorem rests_of_accepts (h : m.accepts i = true) : m.rests i = true := by
  unfold accepts at h
  unfold rests
  split at h
  · next heq => rw [heq]
  · cases h

theorem mem_targets_of_mem_successors (h : j ∈ m.successors before after i) :
    j ∈ (m.state i).targets := by
  unfold successors at h
  split at h
  · next heq => rwa [heq]
  · next heq =>
    split at h
    · rwa [heq]
    · cases h
  · cases h
  · cases h

theorem mem_targets_of_advance? {c : Char} (h : m.advance? c i = some j) :
    j ∈ (m.state i).targets := by
  unfold advance? at h
  split at h
  · next heq =>
    split at h
    · rw [heq, ← Option.some.inj h]
      exact List.mem_singleton_self _
    · cases h
  · cases h

/-! ## Walking within a part -/

/-- The states of a part refer to each other only. -/
def Closed (m : Machine) (S : Nat → Prop) : Prop :=
  ∀ i, S i → ∀ j ∈ (m.state i).targets, S j

/-- A walk from states of a part sees states of the part. -/
theorem Walks.within (hS : m.Closed S) (hw : Walks m before after todo f g)
    (htodo : ∀ i ∈ todo, S i) :
    (∀ i, g.seen.testBit i = true → f.seen.testBit i = true ∨ S i) ∧
      ∀ i ∈ g.threads, i ∈ f.threads ∨ S i := by
  induction hw with
  | nil => exact ⟨fun _ => .inl, fun _ => .inl⟩
  | again _ _ ih => exact ih (List.forall_mem_cons.1 htodo).2
  | @rest i todo f g _ _ _ ih =>
    obtain ⟨hi, hrest⟩ := List.forall_mem_cons.1 htodo
    obtain ⟨hseen, hthreads⟩ := ih hrest
    constructor
    · intro j hj
      rcases hseen j hj with h | h
      · rw [Frontier.rest, Frontier.testBit_mark, Bool.or_eq_true, decide_eq_true_iff] at h
        rcases h with h | rfl
        · exact .inl h
        · exact .inr hi
      · exact .inr h
    · intro j hj
      rcases hthreads j hj with h | h
      · rcases List.mem_cons.1 h with rfl | h
        · exact .inr hi
        · exact .inl h
      · exact .inr h
  | @pass i todo f g _ _ _ ih =>
    obtain ⟨hi, hrest⟩ := List.forall_mem_cons.1 htodo
    have hsuccessors : ∀ j ∈ m.successors before after i, S j :=
      fun j hj => hS i hi j (mem_targets_of_mem_successors hj)
    obtain ⟨hseen, hthreads⟩ := ih (List.forall_mem_append.2 ⟨hsuccessors, hrest⟩)
    refine ⟨fun j hj => ?_, hthreads⟩
    rcases hseen j hj with h | h
    · rw [Frontier.see, Frontier.testBit_mark, Bool.or_eq_true, decide_eq_true_iff] at h
      rcases h with h | rfl
      · exact .inl h
      · exact .inr hi
    · exact .inr h

/-- A walk only adds threads. -/
theorem Walks.exists_threads (hw : Walks m before after todo f g) :
    ∃ new, g.threads = new ++ f.threads := by
  induction hw with
  | nil => exact ⟨[], rfl⟩
  | again _ _ ih | pass _ _ _ ih => exact ih
  | @rest i todo f g _ _ _ ih =>
    obtain ⟨new, hnew⟩ := ih
    exact ⟨new ++ [i], by rw [hnew, Frontier.rest, List.append_assoc, List.singleton_append]⟩

/-- A resting state that a walk has seen is a thread. -/
theorem Walks.rested (hw : Walks m before after todo f g)
    (hf : ∀ i, m.rests i = true → f.seen.testBit i = true → i ∈ f.threads) :
    ∀ i, m.rests i = true → g.seen.testBit i = true → i ∈ g.threads := by
  induction hw with
  | nil => exact hf
  | again _ _ ih => exact ih hf
  | @rest i todo f g _ _ _ ih =>
    refine ih fun j hj hseen => ?_
    rw [Frontier.rest, Frontier.testBit_mark, Bool.or_eq_true, decide_eq_true_iff] at hseen
    rcases hseen with h | rfl
    · exact List.mem_cons_of_mem _ (hf j hj h)
    · exact List.mem_cons_self
  | @pass i todo f g _ hpasses _ ih =>
    refine ih fun j hj hseen => ?_
    rw [Frontier.see, Frontier.testBit_mark, Bool.or_eq_true, decide_eq_true_iff] at hseen
    rcases hseen with h | rfl
    · exact hf j hj h
    · cases hpasses.symm.trans hj

theorem mem_of_mem_reached (hS : m.Closed S) (htodo : ∀ i ∈ todo, S i) :
    ∀ i ∈ m.reached before after todo, S i := by
  obtain ⟨g, hg⟩ := exists_walks m before after todo ⟨0, []⟩
  intro i hi
  rw [reached_eq hg, List.mem_reverse] at hi
  exact ((hg.within hS htodo).2 i hi).resolve_left List.not_mem_nil

theorem Closed.filterMap_advance? (hS : m.Closed S) (hthreads : ∀ i ∈ threads, S i) (c : Char) :
    ∀ j ∈ threads.filterMap (m.advance? c), S j := by
  intro j hj
  obtain ⟨i, hi, hij⟩ := List.mem_filterMap.1 hj
  exact hS i (hthreads i hi) j (mem_targets_of_advance? hij)

/-- Threads stay within a part. -/
theorem mem_of_mem_advance (hS : m.Closed S) (hthreads : ∀ i ∈ threads, S i) (c : Char) :
    ∀ i ∈ m.advance (m.effort + 1) c after threads, S i := by
  rw [advance_eq_reached]
  exact mem_of_mem_reached hS (hS.filterMap_advance? hthreads c)

/-! ## Copies of a part -/

/-- The states of a part of the machine `p` stand in `m` with the numbers that `φ` gives them. -/
structure Copied (φ : Nat → Nat) (S : Nat → Prop) (p m : Machine) : Prop where
  closed : p.Closed S
  injective : ∀ {i j}, S i → S j → φ i = φ j → i = j
  state : ∀ {i}, S i → m.state (φ i) = (p.state i).renamed φ

/-- A part of a machine is a copy of itself. -/
theorem Closed.copied (hS : m.Closed S) : Copied id S m m where
  closed := hS
  injective _ _ h := h
  state {i} _ := by
    show m.state i = (m.state i).renamed id
    cases m.state i with
    | split choices => exact congrArg State.split (List.map_id choices).symm
    | accept | take | check => rfl

/-- The frontiers agree on a part, apart from threads that were there before. -/
def Agree (φ : Nat → Nat) (S : Nat → Prop) (extra : List Nat) (f f' : Frontier) : Prop :=
  (∀ i, S i → f'.seen.testBit (φ i) = f.seen.testBit i) ∧ f'.threads = f.threads.map φ ++ extra

namespace Copied

theorem rests_eq (h : Copied φ S p m) (hi : S i) : m.rests (φ i) = p.rests i := by
  unfold rests
  rw [h.state hi]
  cases p.state i <;> rfl

theorem accepts_eq (h : Copied φ S p m) (hi : S i) : m.accepts (φ i) = p.accepts i := by
  unfold accepts
  rw [h.state hi]
  cases p.state i <;> rfl

theorem successors_eq (h : Copied φ S p m) (hi : S i) :
    m.successors before after (φ i) = (p.successors before after i).map φ := by
  unfold successors
  rw [h.state hi]
  cases p.state i with
  | check look next =>
    simp only [State.renamed]
    split <;> rfl
  | accept | take | split => rfl

theorem advance?_eq (h : Copied φ S p m) (c : Char) (hi : S i) :
    m.advance? c (φ i) = (p.advance? c i).map φ := by
  unfold advance?
  rw [h.state hi]
  cases p.state i with
  | take members next =>
    simp only [State.renamed]
    split <;> rfl
  | accept | split | check => rfl

theorem testBit_mark_eq (h : Copied φ S p m) {seen seen' : Nat} (hi : S i)
    (hagree : ∀ j, S j → seen'.testBit (φ j) = seen.testBit j) (hj : S j) :
    (seen' ||| 1 <<< φ i).testBit (φ j) = (seen ||| 1 <<< i).testBit j := by
  have heq : φ i = φ j ↔ i = j := ⟨h.injective hi hj, congrArg φ⟩
  rw [Frontier.testBit_mark, Frontier.testBit_mark, hagree j hj, decide_eq_decide.2 heq]

/-- A walk goes the same way in the copy, by induction on the walk. -/
theorem exists_walks (h : Copied φ S p m) (hw : Walks p before after todo f g)
    (htodo : ∀ i ∈ todo, S i) (hagree : Agree φ S extra f f') :
    ∃ g', Walks m before after (todo.map φ) f' g' ∧ Agree φ S extra g g' := by
  induction hw generalizing f' with
  | nil => exact ⟨f', .nil f', hagree⟩
  | @again i todo f g hseen _ ih =>
    obtain ⟨hi, hrest⟩ := List.forall_mem_cons.1 htodo
    obtain ⟨g', hw', hg⟩ := ih hrest hagree
    exact ⟨g', .again ((hagree.1 i hi).trans hseen) hw', hg⟩
  | @rest i todo f g hnew hrests _ ih =>
    obtain ⟨hi, hrest⟩ := List.forall_mem_cons.1 htodo
    have hagree' : Agree φ S extra (f.rest i) (f'.rest (φ i)) := by
      refine ⟨fun j hj => h.testBit_mark_eq hi hagree.1 hj, ?_⟩
      rw [Frontier.rest, hagree.2]
      rfl
    obtain ⟨g', hw', hg⟩ := ih hrest hagree'
    exact ⟨g', .rest ((hagree.1 i hi).trans hnew) ((h.rests_eq hi).trans hrests) hw', hg⟩
  | @pass i todo f g hnew hpasses _ ih =>
    obtain ⟨hi, hrest⟩ := List.forall_mem_cons.1 htodo
    have hagree' : Agree φ S extra (f.see i) (f'.see (φ i)) :=
      ⟨fun j hj => h.testBit_mark_eq hi hagree.1 hj, hagree.2⟩
    have hsuccessors : ∀ j ∈ p.successors before after i, S j :=
      fun j hj => h.closed i hi j (mem_targets_of_mem_successors hj)
    obtain ⟨g', hw', hg⟩ := ih (List.forall_mem_append.2 ⟨hsuccessors, hrest⟩) hagree'
    refine ⟨g', .pass ((hagree.1 i hi).trans hnew) ((h.rests_eq hi).trans hpasses) ?_, hg⟩
    rwa [h.successors_eq hi, ← List.map_append]

/-- What is reached in the copy, when nothing of it has been seen. -/
theorem exists_reached (h : Copied φ S p m) (htodo : ∀ i ∈ todo, S i)
    (hnew : ∀ i, S i → f'.seen.testBit (φ i) = false) :
    ∃ g', Walks m before after (todo.map φ) f' g' ∧
      g'.threads.reverse = f'.threads.reverse ++ (p.reached before after todo).map φ := by
  obtain ⟨g, hg⟩ := Machine.exists_walks p before after todo ⟨0, []⟩
  have hagree : Agree φ S f'.threads ⟨0, []⟩ f' :=
    ⟨fun i hi => (hnew i hi).trans (Nat.zero_testBit i).symm, rfl⟩
  obtain ⟨g', hw, -, hthreads⟩ := h.exists_walks hg htodo hagree
  refine ⟨g', hw, ?_⟩
  rw [hthreads, List.reverse_append, reached_eq hg, List.map_reverse]

theorem reached_eq (h : Copied φ S p m) (htodo : ∀ i ∈ todo, S i) :
    m.reached before after (todo.map φ) = (p.reached before after todo).map φ := by
  have hnew : ∀ i, S i → (⟨0, []⟩ : Frontier).seen.testBit (φ i) = false :=
    fun _ _ => Nat.zero_testBit _
  obtain ⟨g', hw, hthreads⟩ := h.exists_reached htodo hnew
  exact (Machine.reached_eq hw).trans hthreads

theorem advance_eq (h : Copied φ S p m) (hthreads : ∀ i ∈ threads, S i) (c : Char) :
    m.advance (m.effort + 1) c after (threads.map φ) =
      (p.advance (p.effort + 1) c after threads).map φ := by
  have hnext : (threads.map φ).filterMap (m.advance? c) =
      (threads.filterMap (p.advance? c)).map φ := by
    rw [List.filterMap_map, List.map_filterMap]
    exact List.filterMap_congr fun i hi => h.advance?_eq c (hthreads i hi)
  rw [advance_eq_reached, advance_eq_reached, hnext]
  exact h.reached_eq (h.closed.filterMap_advance? hthreads c)

end Copied

/-! ## Runs -/

theorem run_nil_threads (m : Machine) (fuel count : Nat) (best : Option Nat) (text : List Char) :
    m.run fuel [] count best text = best := by
  cases text <;> rfl

theorem run_cons (m : Machine) (fuel : Nat) (threads : List Nat) (count : Nat) (best : Option Nat)
    (c : Char) (rest : List Char) :
    m.run fuel threads count best (c :: rest) =
      m.run fuel (m.advance fuel c rest.head? (threads.takeWhile (!m.accepts ·))) (count + 1)
        (if threads.any m.accepts then some count else best) rest := by
  rw [run]
  cases threads.takeWhile (!m.accepts ·) with
  | nil => exact (run_nil_threads m fuel _ _ rest).symm
  | cons i preferred => rfl

/-- A run that finds nothing leaves the match so far. -/
theorem run_eq_or_best (m : Machine) (fuel : Nat) (threads : List Nat) (count : Nat)
    (best : Option Nat) (text : List Char) :
    m.run fuel threads count best text = (m.run fuel threads count none text).or best := by
  induction text generalizing threads count best with
  | nil =>
    rw [run, run]
    split <;> rfl
  | cons c rest ih =>
    rw [run_cons, run_cons, ih _ _ (if threads.any m.accepts then some count else best),
      ih _ _ (if threads.any m.accepts then some count else none)]
    split
    · cases m.run fuel _ _ none rest <;> rfl
    · rw [Option.or_none]

theorem isSome_run (m : Machine) (fuel : Nat) {threads : List Nat} (h : threads.any m.accepts)
    (count : Nat) (best : Option Nat) (text : List Char) :
    (m.run fuel threads count best text).isSome := by
  cases text with
  | nil => rw [run, if_pos h]; rfl
  | cons c rest =>
    rw [run_cons, if_pos h, run_eq_or_best, Option.isSome_or]
    simp

theorem takeWhile_append_of_any {f : Nat → Bool} {xs : List Nat} (h : xs.any f) (ys : List Nat) :
    (xs ++ ys).takeWhile (!f ·) = xs.takeWhile (!f ·) := by
  induction xs with
  | nil => cases h
  | cons x xs ih =>
    rw [List.cons_append, List.takeWhile_cons, List.takeWhile_cons]
    cases hx : f x with
    | true => rfl
    | false =>
      rw [List.any_cons, hx, Bool.false_or] at h
      rw [ih h]

theorem takeWhile_append_of_not_any {f : Nat → Bool} {xs : List Nat} (h : xs.any f = false)
    (ys : List Nat) : (xs ++ ys).takeWhile (!f ·) = xs ++ ys.takeWhile (!f ·) :=
  List.takeWhile_append_of_pos fun x hx => by
    rw [List.any_eq_false] at h
    simpa using h x hx

/-- Threads behind an accepting one do not count. -/
theorem run_append_of_accepts (m : Machine) (fuel : Nat) {threads : List Nat}
    (h : threads.any m.accepts) (more : List Nat) (count : Nat) (best other : Option Nat)
    (text : List Char) :
    m.run fuel (threads ++ more) count best text =
      (m.run fuel threads count none text).or other := by
  have hany : (threads ++ more).any m.accepts = true := by
    rw [List.any_append, h, Bool.true_or]
  have hthreads : m.run fuel (threads ++ more) count best text =
      m.run fuel threads count best text := by
    cases text with
    | nil => rw [run, run, if_pos h, if_pos hany]
    | cons c rest =>
      rw [run_cons, run_cons, if_pos h, if_pos hany, takeWhile_append_of_any h]
  obtain ⟨n, hn⟩ := Option.isSome_iff_exists.1 (m.isSome_run fuel h count none text)
  rw [hthreads, run_eq_or_best, hn, Option.some_or, Option.some_or]

theorem Copied.any_accepts (h : Copied φ S p m) (hthreads : ∀ i ∈ threads, S i) :
    (threads.map φ).any m.accepts = threads.any p.accepts := by
  induction threads with
  | nil => rfl
  | cons i threads ih =>
    obtain ⟨hi, hrest⟩ := List.forall_mem_cons.1 hthreads
    rw [List.map_cons, List.any_cons, List.any_cons, h.accepts_eq hi, ih hrest]

theorem Copied.takeWhile_accepts (h : Copied φ S p m) (hthreads : ∀ i ∈ threads, S i) :
    (threads.map φ).takeWhile (!m.accepts ·) = (threads.takeWhile (!p.accepts ·)).map φ := by
  induction threads with
  | nil => rfl
  | cons i threads ih =>
    obtain ⟨hi, hrest⟩ := List.forall_mem_cons.1 hthreads
    rw [List.map_cons, List.takeWhile_cons, List.takeWhile_cons, h.accepts_eq hi, ih hrest]
    cases p.accepts i <;> rfl

/-- Threads of a copy find what those of the part find, by induction on the text. -/
theorem Copied.run_eq (h : Copied φ S p m) (hthreads : ∀ i ∈ threads, S i) (count : Nat)
    (best : Option Nat) (text : List Char) :
    m.run (m.effort + 1) (threads.map φ) count best text =
      p.run (p.effort + 1) threads count best text := by
  induction text generalizing threads count best with
  | nil => rw [run, run, h.any_accepts hthreads]
  | cons c rest ih =>
    have hpreferred : ∀ i ∈ threads.takeWhile (!p.accepts ·), S i :=
      fun i hi => hthreads i (List.takeWhile_subset _ hi)
    rw [run_cons, run_cons, h.any_accepts hthreads, h.takeWhile_accepts hthreads,
      h.advance_eq hpreferred c]
    exact ih (mem_of_mem_advance h.closed hpreferred c) _ _

/-- What is matched from states of a copy is what is matched from those of the part. -/
theorem Copied.matchFrom_eq (h : Copied φ S p m) (htodo : ∀ i ∈ todo, S i)
    (before : Option Char) (text : List Char) :
    m.matchFrom (todo.map φ) before text = p.matchFrom todo before text := by
  rw [matchFrom, matchFrom, h.reached_eq htodo]
  exact h.run_eq (mem_of_mem_reached h.closed htodo) 0 none text

/-! ## Two parts -/

section Two

variable (hS : m.Closed S) (hT : m.Closed T) (hcommon : ∀ i, S i → T i → m.accepts i = true)

include hS hT hcommon

/-- From states of two parts, the first ones first, what the first ones reach comes first. After a
thread that accepts, it does not matter which others there are. -/
theorem exists_reached_append (before after : Option Char) (htodo : ∀ i ∈ todo, S i)
    (hmore : ∀ i ∈ more, T i) :
    ∃ extra, m.reached before after (todo ++ more) = m.reached before after todo ++ extra ∧
      (extra = m.reached before after more ∨ (m.reached before after todo).any m.accepts) := by
  obtain ⟨f, hf⟩ := exists_walks m before after todo ⟨0, []⟩
  obtain ⟨g, hg⟩ := exists_walks m before after more f
  have hthreads : m.reached before after todo = f.threads.reverse := reached_eq hf
  have hboth : m.reached before after (todo ++ more) = g.threads.reverse :=
    reached_eq (hf.append hg)
  by_cases haccepts : (m.reached before after todo).any m.accepts
  · obtain ⟨new, hnew⟩ := hg.exists_threads
    exact ⟨new.reverse, by rw [hboth, hnew, List.reverse_append, hthreads], .inr haccepts⟩
  · -- no state of the second part has been seen: what the first part shares with it accepts
    have hunseen : ∀ i, T i → f.seen.testBit i = false := by
      intro i hi
      by_contra hseen
      rw [Bool.not_eq_false] at hseen
      rcases (hf.within hS htodo).1 i hseen with hzero | hSi
      · rw [Nat.zero_testBit] at hzero
        cases hzero
      · have hi' : m.accepts i = true := hcommon i hSi hi
        have hthread : i ∈ f.threads := by
          refine hf.rested (fun j _ hj => ?_) i (rests_of_accepts hi') hseen
          rw [Nat.zero_testBit] at hj
          cases hj
        rw [hthreads, List.any_reverse] at haccepts
        exact haccepts (List.any_eq_true.2 ⟨i, hthread, hi'⟩)
    have hcopy : ∃ g', Walks m before after (more.map id) f g' ∧ g'.threads.reverse =
        f.threads.reverse ++ (m.reached before after more).map id :=
      hT.copied.exists_reached hmore hunseen
    rw [List.map_id, List.map_id] at hcopy
    obtain ⟨g', hg', hextra⟩ := hcopy
    obtain rfl := hg.unique hg'
    exact ⟨_, by rw [hboth, hextra, hthreads], .inl rfl⟩

/-- A run of threads of two parts finds what those of the first part find, or else what those of the
second do. By induction on the text: either the threads of the second part all go on, or a thread of
the first part accepts and those of the second do not matter. -/
theorem run_append (hthreads : ∀ i ∈ threads, S i) (hmore : ∀ i ∈ more, T i)
    (hextra : extra = more ∨ threads.any m.accepts) (count : Nat) (best : Option Nat)
    (text : List Char) :
    m.run (m.effort + 1) (threads ++ extra) count best text =
      (m.run (m.effort + 1) threads count none text).or
        (m.run (m.effort + 1) more count best text) := by
  induction text generalizing threads more extra count best with
  | nil =>
    rcases hextra with rfl | haccepts
    · rw [run, run, run, List.any_append]
      cases threads.any m.accepts <;> rfl
    · exact m.run_append_of_accepts _ haccepts extra count best _ []
  | cons c rest ih =>
    by_cases haccepts : threads.any m.accepts
    · exact m.run_append_of_accepts _ haccepts extra count best _ (c :: rest)
    obtain rfl := hextra.resolve_right haccepts
    have hnone : threads.any m.accepts = false := Bool.eq_false_iff.2 haccepts
    have hwhole : threads.takeWhile (!m.accepts ·) = threads := by
      have h := takeWhile_append_of_not_any hnone []
      rwa [List.takeWhile_nil, List.append_nil] at h
    have hpreferred : ∀ i ∈ extra.takeWhile (!m.accepts ·), T i :=
      fun i hi => hmore i (List.takeWhile_subset _ hi)
    rw [run_cons, run_cons, run_cons, List.any_append, hnone, Bool.false_or,
      takeWhile_append_of_not_any hnone, hwhole, if_neg Bool.false_ne_true]
    obtain ⟨extra', hreached, hextra'⟩ := exists_reached_append hS hT hcommon (some c) rest.head?
      (hS.filterMap_advance? hthreads c) (hT.filterMap_advance? hpreferred c)
    rw [← List.filterMap_append, ← advance_eq_reached] at hreached
    rw [hreached]
    exact ih (mem_of_mem_advance hS hthreads c) (mem_of_mem_advance hT hpreferred c) hextra' _ _

/-- What is matched from states of two parts, the first ones first, is the match from the first
ones, or else that from the others. -/
theorem matchFrom_append (htodo : ∀ i ∈ todo, S i) (hmore : ∀ i ∈ more, T i)
    (before : Option Char) (text : List Char) :
    m.matchFrom (todo ++ more) before text =
      (m.matchFrom todo before text).or (m.matchFrom more before text) := by
  obtain ⟨extra, hreached, hextra⟩ :=
    exists_reached_append hS hT hcommon before text.head? htodo hmore
  rw [matchFrom, hreached]
  exact run_append hS hT hcommon (mem_of_mem_reached hS htodo) (mem_of_mem_reached hT hmore)
    hextra 0 none text

end Two

end Machine

end ScanRules.Pattern
