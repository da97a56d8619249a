import ScanRules.Pattern.Machine

/-!
# Machines that look at nothing but what they take

A machine without conditions takes no notice of the text around its match. Where such a machine runs
over the front of a text, it does the same as over all of it, up to the cut.

- `State.Blind`, `Machine.Blind`: no condition is checked.
- `Machine.Blind.match?_eq`: the character in front of a text does not matter.
- `Machine.Blind.run_append`, `Machine.Blind.match?_append`: a match is not changed where the text
  is cut at or behind its end, and no cut makes a match where there was none.
-/

namespace ScanRules.Pattern

/-- The state does not look around. -/
def State.Blind : State → Prop
  | .check _ _ => False
  | .accept | .take _ _ | .split _ => True

namespace Machine

/-- None of the states looks around. -/
def Blind (m : Machine) : Prop := ∀ s ∈ m.states, s.Blind

/-- A run is over at a character, or it goes on behind it. -/
theorem run_cons_or {m : Machine} {fuel : Nat} (threads : List Nat) (count : Nat)
    (best : Option Nat) (c : Char) (rest : List Char) :
    m.run fuel threads count best (c :: rest) =
        (if threads.any m.accepts then some count else best) ∨
      ∃ preferred, m.run fuel threads count best (c :: rest) =
        m.run fuel (m.advance fuel c rest.head? preferred) (count + 1)
          (if threads.any m.accepts then some count else best) rest := by
  rw [run]
  cases threads.takeWhile (!m.accepts ·) with
  | nil => exact .inl rfl
  | cons t ts => exact .inr ⟨t :: ts, rfl⟩

/-- A run finds the best match so far, or one that ends later. -/
theorem run_eq_or {m : Machine} {fuel : Nat} (text : List Char) :
    ∀ (threads : List Nat) (count : Nat) (best : Option Nat),
      m.run fuel threads count best text = best ∨
        ∃ n, m.run fuel threads count best text = some n ∧ count ≤ n := by
  induction text with
  | nil =>
    intro threads count best
    rw [run]
    split
    · exact .inr ⟨count, rfl, Nat.le_refl _⟩
    · exact .inl rfl
  | cons c rest ih =>
    intro threads count best
    -- what has been found up to here is the best match so far, or one that ends here
    have hfound : (if threads.any m.accepts then some count else best) = best ∨
        (if threads.any m.accepts then some count else best) = some count := by
      split <;> simp
    obtain hover | ⟨preferred, hon⟩ := run_cons_or threads count best c rest
    · rw [hover]
      exact hfound.imp_right fun h => ⟨count, h, Nat.le_refl _⟩
    · rw [hon]
      obtain hsame | ⟨n, hn, hle⟩ := ih (m.advance fuel c rest.head? preferred) (count + 1)
        (if threads.any m.accepts then some count else best)
      · rw [hsame]
        exact hfound.imp_right fun h => ⟨count, h, Nat.le_refl _⟩
      · exact .inr ⟨n, hn, Nat.le_of_succ_le hle⟩

namespace Blind

variable {m : Machine}

theorem state (h : m.Blind) (i : Nat) : (m.state i).Blind := by
  rw [Machine.state, Array.getD_eq_getD_getElem?]
  cases hi : m.states[i]? with
  | none => trivial
  | some s => exact h s (Array.mem_of_getElem? hi)

theorem successors_eq (h : m.Blind) (before after before' after' : Option Char) (i : Nat) :
    m.successors before after i = m.successors before' after' i := by
  have hstate := h.state i
  unfold successors
  cases hi : m.state i with
  | check look next =>
    rw [hi] at hstate
    exact hstate.elim
  | accept | take | split => rfl

theorem explore_eq (h : m.Blind) (before after before' after' : Option Char) (fuel : Nat)
    (todo : List Nat) (f : Frontier) :
    m.explore before after fuel todo f = m.explore before' after' fuel todo f := by
  fun_induction explore m before after fuel todo f with
  | case1 => rw [explore]
  | case2 => rw [explore]
  | case3 f fuel i todo hseen ih => rw [explore, if_pos hseen, ih]
  | case4 f fuel i todo hseen seen hrests ih =>
    rw [explore, if_neg hseen]
    simp only [seen, hrests, if_true] at ih ⊢
    exact ih
  | case5 f fuel i todo hseen seen hrests ih =>
    rw [explore, if_neg hseen, ← h.successors_eq before after before' after']
    simp only [seen, hrests] at ih ⊢
    exact ih

theorem enter_eq (h : m.Blind) (fuel : Nat) (before after before' after' : Option Char) :
    m.enter fuel before after = m.enter fuel before' after' := by
  funext f i
  exact h.explore_eq before after before' after' fuel [i] f

/-- The threads after a character do not depend on the character that follows it. -/
theorem advance_eq (h : m.Blind) (fuel : Nat) (c : Char) (after after' : Option Char) :
    m.advance fuel c after = m.advance fuel c after' := by
  funext threads
  rw [advance, advance, h.enter_eq fuel (some c) after (some c) after']

theorem match?_eq (h : m.Blind) (before before' : Option Char) (text : List Char) :
    m.match? before text = m.match? before' text := by
  rw [match?, match?, h.enter_eq _ before text.head? before' text.head?]

/-- Over a text a run finds what it finds over a front part of it, or a match that ends behind this
part. -/
theorem run_append (h : m.Blind) {fuel : Nat} (a b : List Char) :
    ∀ (threads : List Nat) (count : Nat) (best : Option Nat),
      m.run fuel threads count best (a ++ b) = m.run fuel threads count best a ∨
        ∃ n, m.run fuel threads count best (a ++ b) = some n ∧ count + a.length < n := by
  induction a with
  | nil =>
    intro threads count best
    cases b with
    | nil => exact .inl rfl
    | cons c rest =>
      rw [List.nil_append, run, run]
      generalize (if threads.any m.accepts then some count else best) = best'
      split
      · exact .inl rfl
      · exact run_eq_or rest _ (count + 1) best'
  | cons c a ih =>
    intro threads count best
    rw [List.cons_append, run, run]
    generalize (if threads.any m.accepts then some count else best) = best'
    generalize threads.takeWhile (!m.accepts ·) = preferred
    cases preferred with
    | nil => exact .inl rfl
    | cons t ts =>
      simp only [h.advance_eq fuel c (a ++ b).head? a.head?]
      obtain heq | ⟨n, hn, hlt⟩ := ih (m.advance fuel c a.head? (t :: ts)) (count + 1) best'
      · exact .inl heq
      · refine .inr ⟨n, hn, ?_⟩
        rw [List.length_cons]
        omega

/-- The match of a text is that of a front part of it, or it ends behind this part. -/
theorem match?_append (h : m.Blind) (before : Option Char) (a b : List Char) :
    m.match? before (a ++ b) = m.match? before a ∨
      ∃ n, m.match? before (a ++ b) = some n ∧ a.length < n := by
  rw [match?, match?, h.enter_eq _ before (a ++ b).head? before a.head?]
  obtain heq | ⟨n, hn, hlt⟩ := h.run_append a b
    (m.enter (m.effort + 1) before a.head? ⟨0, []⟩ m.start).threads.reverse 0 none
  · exact .inl heq
  · exact .inr ⟨n, hn, by omega⟩

end Blind

end Machine

end ScanRules.Pattern
