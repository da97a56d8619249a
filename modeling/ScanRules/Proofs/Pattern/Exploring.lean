import Mathlib.Algebra.Ring.Nat
import ScanRules.Pattern.Machine

/-!
# What exploring reaches

A machine explores with a bound on the number of steps. The bound is never met, so exploring can be
described without it.

- `Machine.Walks`: walking from some states leads from one frontier to another.
- `Machine.walks_explore`: exploring walks to the end, as a state is left only once
  (`Machine.ways`, `Machine.waysLeft`).
- `Machine.Walks.append`, `Machine.Walks.unique`: walks go on one behind the other, and there is one
  walk only.
- `Machine.reached`: the threads that are reached from some states. `Machine.advance_eq_reached` and
  `Machine.match?_eq_matchFrom` tell of matching in terms of them.
-/

namespace ScanRules.Pattern.Machine

namespace Frontier

/-- The frontier after a state has been seen. -/
def see (f : Frontier) (i : Nat) : Frontier := ⟨f.seen ||| 1 <<< i, f.threads⟩

/-- The frontier after a thread has come to rest. -/
def rest (f : Frontier) (i : Nat) : Frontier := ⟨f.seen ||| 1 <<< i, i :: f.threads⟩

theorem testBit_mark (seen i j : Nat) :
    (seen ||| 1 <<< i).testBit j = (seen.testBit j || decide (i = j)) := by
  rw [Nat.testBit_or, Nat.one_shiftLeft, Nat.testBit_two_pow]

end Frontier

/-- Walking from the states of a list, the first one first, leads from one frontier to another. -/
inductive Walks (m : Machine) (before after : Option Char) :
    List Nat → Frontier → Frontier → Prop
  | nil (f : Frontier) : Walks m before after [] f f
  | again {i : Nat} {todo : List Nat} {f g : Frontier} : f.seen.testBit i = true →
    Walks m before after todo f g → Walks m before after (i :: todo) f g
  | rest {i : Nat} {todo : List Nat} {f g : Frontier} : f.seen.testBit i = false →
    m.rests i = true → Walks m before after todo (f.rest i) g →
    Walks m before after (i :: todo) f g
  | pass {i : Nat} {todo : List Nat} {f g : Frontier} : f.seen.testBit i = false →
    m.rests i = false → Walks m before after (m.successors before after i ++ todo) (f.see i) g →
    Walks m before after (i :: todo) f g

variable {m : Machine} {before after : Option Char} {todo more : List Nat} {f g h : Frontier}

theorem Walks.append (hw : Walks m before after todo f g) (hw' : Walks m before after more g h) :
    Walks m before after (todo ++ more) f h := by
  induction hw with
  | nil => exact hw'
  | again hseen _ ih => exact .again hseen (ih hw')
  | rest hnew hrests _ ih => exact .rest hnew hrests (ih hw')
  | pass hnew hpasses _ ih =>
    refine .pass hnew hpasses ?_
    have htodo := ih hw'
    rwa [List.append_assoc] at htodo

theorem Walks.unique (hw : Walks m before after todo f g) (hw' : Walks m before after todo f h) :
    g = h := by
  induction hw with
  | nil => cases hw'; rfl
  | again hseen _ ih =>
    cases hw' with
    | again _ hw' => exact ih hw'
    | rest hnew | pass hnew => cases hseen.symm.trans hnew
  | rest hnew hrests _ ih =>
    cases hw' with
    | again hseen => cases hseen.symm.trans hnew
    | rest _ _ hw' => exact ih hw'
    | pass _ hpasses => cases hrests.symm.trans hpasses
  | pass hnew hpasses _ ih =>
    cases hw' with
    | again hseen => cases hseen.symm.trans hnew
    | rest _ hrests => cases hrests.symm.trans hpasses
    | pass _ _ hw' => exact ih hw'

/-! ## The bound on exploring -/

/-- The number of ways out of a state, as they count in the bound. -/
def ways : State → Nat
  | .split choices => choices.length
  | .accept | .take _ _ | .check _ _ => 1

/-- The ways out of the states with a number below `n` that have not been seen. -/
def waysLeft (m : Machine) (seen : Nat) : (n : Nat) → Nat
  | 0 => 0
  | n + 1 => m.waysLeft seen n + if seen.testBit n then 0 else ways (m.state n)

theorem length_successors_le (m : Machine) (before after : Option Char) (i : Nat) :
    (m.successors before after i).length ≤ ways (m.state i) := by
  unfold successors
  cases m.state i with
  | check look next =>
    simp only [ways]
    split <;> simp
  | accept | take | split => simp [ways]

/-- A state that is seen takes its ways out of the count. -/
theorem waysLeft_mark (m : Machine) {seen i : Nat} (hnew : seen.testBit i = false) (n : Nat) :
    m.waysLeft (seen ||| 1 <<< i) n + (if i < n then ways (m.state i) else 0) =
      m.waysLeft seen n := by
  induction n with
  | zero => rfl
  | succ n ih =>
    simp only [waysLeft, Frontier.testBit_mark]
    by_cases hin : i = n
    · subst hin
      simp only [Nat.lt_irrefl, if_false, Nat.add_zero] at ih
      simp [hnew, ih]
    · by_cases hlt : i < n
      · have hlt' : i < n + 1 := Nat.lt_succ_of_lt hlt
        simp only [hlt, hlt', if_true, hin, decide_false, Bool.or_false] at ih ⊢
        omega
      · have hlt' : ¬ i < n + 1 := by omega
        simp only [hlt, hlt', if_false, hin, decide_false, Bool.or_false] at ih ⊢
        omega

theorem waysLeft_le (m : Machine) (seen n : Nat) : m.waysLeft seen n ≤ m.waysLeft 0 n := by
  induction n with
  | zero => exact Nat.le_refl _
  | succ n ih =>
    simp only [waysLeft, Nat.zero_testBit, Bool.false_eq_true, if_false]
    split <;> omega

theorem waysLeft_eq_sum (m : Machine) {n : Nat} (hn : n ≤ m.states.size) :
    m.waysLeft 0 n = ((m.states.toList.take n).map ways).sum := by
  induction n with
  | zero => rfl
  | succ n ih =>
    have hlt : n < m.states.toList.length := by
      rw [Array.length_toList]
      omega
    have hstate : m.state n = m.states.toList[n] := by
      rw [Machine.state, Array.getD_eq_getD_getElem?, Array.getElem?_eq_getElem (by omega)]
      rfl
    rw [waysLeft, ih (by omega), Nat.zero_testBit, if_neg Bool.false_ne_true, hstate,
      List.take_succ_eq_append_getElem hlt, List.map_append, List.sum_append]
    simp

/-- The bound counts every way out of a state. -/
theorem effort_eq (m : Machine) : m.effort = 1 + (m.states.toList.map ways).sum := by
  have hfold (states : List State) (n : Nat) :
      states.foldl (fun n s => n + ways s) n = n + (states.map ways).sum := by
    induction states generalizing n with
    | nil => rfl
    | cons s states ih =>
      rw [List.foldl_cons, ih, List.map_cons, List.sum_cons]
      omega
  have hways : m.effort = m.states.foldl (fun n s => n + ways s) 1 := by
    unfold effort
    congr 1
    funext n s
    cases s <;> rfl
  rw [hways, ← Array.foldl_toList, hfold]

theorem waysLeft_lt_effort (m : Machine) (seen : Nat) :
    m.waysLeft seen m.states.size < m.effort := by
  have hle := m.waysLeft_le seen m.states.size
  rw [waysLeft_eq_sum m (Nat.le_refl _), ← Array.length_toList, List.take_length] at hle
  rw [effort_eq, Array.length_toList] at *
  omega

/-- States that do not exist lead nowhere. -/
theorem successors_of_size_le {i : Nat} (hi : m.states.size ≤ i) :
    m.successors before after i = [] := by
  have hstate : m.state i = .split [] := by
    rw [Machine.state, Array.getD_eq_getD_getElem?, Array.getElem?_eq_none hi]
    rfl
  simp only [successors, hstate]

/-- Exploring walks to the end. -/
theorem walks_explore {fuel : Nat}
    (hfuel : todo.length + m.waysLeft f.seen m.states.size ≤ fuel) :
    Walks m before after todo f (m.explore before after fuel todo f) := by
  fun_induction explore m before after fuel todo f with
  | case1 => exact .nil _
  | case2 i todo f =>
    rw [List.length_cons] at hfuel
    omega
  | case3 fuel i todo f hseen ih =>
    rw [List.length_cons] at hfuel
    exact .again hseen (ih (by omega))
  | case4 fuel i todo f hseen seen hrests ih =>
    have hnew : f.seen.testBit i = false := Bool.eq_false_iff.2 hseen
    have hleft := m.waysLeft_mark hnew m.states.size
    rw [List.length_cons] at hfuel
    exact .rest hnew hrests (ih (by simp only [seen]; omega))
  | case5 fuel i todo f hseen seen hrests ih =>
    have hnew : f.seen.testBit i = false := Bool.eq_false_iff.2 hseen
    have hleft := m.waysLeft_mark hnew m.states.size
    have hsuccessors := m.length_successors_le before after i
    rw [List.length_cons] at hfuel
    refine .pass hnew (Bool.eq_false_iff.2 hrests) (ih ?_)
    rw [List.length_append]
    by_cases hi : i < m.states.size
    · rw [if_pos hi] at hleft
      simp only [seen]
      omega
    · rw [if_neg hi] at hleft
      rw [successors_of_size_le (Nat.not_lt.1 hi), List.length_nil]
      simp only [seen]
      omega

theorem exists_walks (m : Machine) (before after : Option Char) (todo : List Nat) (f : Frontier) :
    ∃ g, Walks m before after todo f g :=
  ⟨_, walks_explore (Nat.le_refl _)⟩

/-- With the bound that machines use, entering a state is a walk. -/
theorem walks_enter (m : Machine) (before after : Option Char) (f : Frontier) (i : Nat) :
    Walks m before after [i] f (m.enter (m.effort + 1) before after f i) := by
  refine walks_explore ?_
  have hlt := m.waysLeft_lt_effort f.seen
  rw [List.length_singleton]
  omega

theorem walks_foldl_enter (m : Machine) (before after : Option Char) (todo : List Nat)
    (f : Frontier) :
    Walks m before after todo f (todo.foldl (m.enter (m.effort + 1) before after) f) := by
  induction todo generalizing f with
  | nil => exact .nil f
  | cons i todo ih => exact (m.walks_enter before after f i).append (ih _)

/-! ## Matching -/

/-- The threads that are reached from the states of a list, the preferred one first. -/
def reached (m : Machine) (before after : Option Char) (todo : List Nat) : List Nat :=
  (todo.foldl (m.enter (m.effort + 1) before after) ⟨0, []⟩).threads.reverse

theorem reached_eq (hw : Walks m before after todo ⟨0, []⟩ g) :
    m.reached before after todo = g.threads.reverse := by
  rw [reached, (m.walks_foldl_enter before after todo ⟨0, []⟩).unique hw]

theorem advance_eq_reached (m : Machine) (c : Char) (after : Option Char) (threads : List Nat) :
    m.advance (m.effort + 1) c after threads =
      m.reached (some c) after (threads.filterMap (m.advance? c)) := rfl

/-- The match from the states of a list. -/
def matchFrom (m : Machine) (todo : List Nat) (before : Option Char) (text : List Char) :
    Option Nat :=
  m.run (m.effort + 1) (m.reached before text.head? todo) 0 none text

theorem match?_eq_matchFrom (m : Machine) (before : Option Char) (text : List Char) :
    m.match? before text = m.matchFrom [m.start] before text := rfl

end ScanRules.Pattern.Machine
