import Mathlib.Tactic.Ring
import ScanRules.Pattern.Weight

/-!
# Counting

Where counting adds a fixed amount, it does not matter in how many steps this is done, as a tally
that is over the limit never comes back below it. So copies of an expression weigh as many times as
much as the expression, and the verdict on them is a comparison of two numbers. Only states that are
found again do not add up: they are counted once.

- `Count.add_bind_add`, `Count.times_add`: amounts add up.
- `remember_again`: a state is counted once.
- `Expr.weigh?_of_count`: the tally of a pattern that is counted as a fixed amount.
- `Expr.tooHeavy_copies`: the verdict on copies.
-/

namespace ScanRules.Pattern

namespace Count

/-- Two amounts in a row are their sum: what is over the limit after the first is over it after
both. -/
theorem add_bind_add (s w s' w' : Nat) : (do add s w; add s' w') = add (s + s') (w + w') := by
  funext t
  show (add s w t).bind (fun r => add s' w' r.2) = add (s + s') (w + w') t
  unfold add
  by_cases h : weightLimit < t.weight + w
  · have hboth : weightLimit < t.weight + (w + w') := by omega
    simp only [if_pos h, if_pos hboth, Option.bind_none]
  · simp only [if_neg h, Option.bind_some, Nat.add_assoc]

/-- The same amount several times is a multiple of it. -/
theorem times_add (n s w : Nat) :
    times (n + 1) (add s w) = add ((n + 1) * s) ((n + 1) * w) := by
  induction n with
  | zero =>
    rw [Nat.zero_add, Nat.one_mul, Nat.one_mul]
    show (do add s w; pure ()) = add s w
    exact bind_pure _
  | succ n ih =>
    show (do add s w; times (n + 1) (add s w)) = _
    rw [ih, add_bind_add]
    congr 1 <;> ring

end Count

/-! ## States that are found again -/

namespace Slots

theorem find?_eq (slots : Slots) (slot : Nat) :
    slots.find? slot =
      if slot = 0 then slots.parts.1
      else if slot % 2 = 1 then slots.parts.2.1.find? (slot / 2)
      else slots.parts.2.2.find? (slot / 2 - 1) := by
  cases slots with
  | empty =>
    show none = if slot = 0 then none else if slot % 2 = 1 then none else none
    rw [ite_self, ite_self]
  | node entry left right => rfl

theorem find?_putWithin (entry : List Nat × Nat) {depth slot : Nat} (h : slot < depth)
    (slots : Slots) (other : Nat) :
    (putWithin entry depth slot slots).find? other =
      if other = slot then some entry else slots.find? other := by
  induction depth generalizing slot slots other with
  | zero => exact absurd h (Nat.not_lt_zero slot)
  | succ depth ih =>
    rw [putWithin, find?_eq slots]
    generalize slots.parts = parts
    obtain ⟨old, left, right⟩ := parts
    simp only
    by_cases hslot : slot = 0
    · rw [if_pos hslot, find?, hslot]
      by_cases hother : other = 0
      · rw [if_pos hother, if_pos hother]
      · rw [if_neg hother, if_neg hother, if_neg hother]
    · rw [if_neg hslot]
      -- an entry goes to the one side or the other, and nothing changes but the slots there
      by_cases hodd : slot % 2 = 1
      · have hput := @ih (slot / 2) (by omega) left (other / 2)
        rw [if_pos hodd, find?]
        by_cases hother : other = 0
        · have hne : other ≠ slot := by omega
          rw [if_pos hother, if_pos hother, if_neg hne]
        · rw [if_neg hother, if_neg hother, hput]
          by_cases hparity : other % 2 = 1
          · have hhalf : other / 2 = slot / 2 ↔ other = slot := by omega
            rw [if_pos hparity, if_pos hparity]
            simp only [hhalf]
          · have hne : other ≠ slot := by omega
            rw [if_neg hparity, if_neg hparity, if_neg hne]
      · have hput := @ih (slot / 2 - 1) (by omega) right (other / 2 - 1)
        rw [if_neg hodd, find?]
        by_cases hother : other = 0
        · have hne : other ≠ slot := by omega
          rw [if_pos hother, if_pos hother, if_neg hne]
        · rw [if_neg hother, if_neg hother, hput]
          by_cases hparity : other % 2 = 1
          · have hne : other ≠ slot := by omega
            rw [if_pos hparity, if_pos hparity, if_neg hne]
          · have hhalf : other / 2 - 1 = slot / 2 - 1 ↔ other = slot := by omega
            rw [if_neg hparity, if_neg hparity]
            simp only [hhalf]

/-- What is put in a slot is found there, and the other slots stay as they are. -/
theorem find?_put (slots : Slots) (slot : Nat) (entry : List Nat × Nat) (other : Nat) :
    (slots.put slot entry).find? other =
      if other = slot then some entry else slots.find? other :=
  find?_putWithin entry (Nat.lt_succ_self slot) slots other

end Slots

/-- A state that is remembered has its number; another one is counted and remembered. -/
theorem remember_run (capacity : Nat) (key : List Nat) (count : Count Unit) (slots : Slots)
    (t : Tally) :
    remember capacity key count slots t =
      match (slots.find? ((hashOf key).toNat % capacity)).filter (·.1 = key) with
      | some (_, number) => some ((number, slots), t)
      | none => (count t).map fun r =>
        ((t.states, slots.put ((hashOf key).toNat % capacity) (key, t.states)), r.2) := by
  let found := (slots.find? ((hashOf key).toNat % capacity)).filter (·.1 = key)
  show (match found with
    | some (_, number) => (pure number : SharedCount Nat)
    | none => _) slots t = _
  -- a slot with another key counts as free
  cases h : found with
  | some entry =>
    simp only [found] at h
    rw [h]
    rfl
  | none =>
    simp only [found] at h
    rw [h]
    show (((count t).bind fun r => some ((r.1, slots), r.2)).bind fun r =>
      some ((t.states, r.1.2.put ((hashOf key).toNat % capacity) (key, t.states)), r.2)) = _
    cases count t <;> rfl

/-- A state is counted once: as long as its slot is not taken, it is found again, and the tally
stays as it is. -/
theorem remember_again {capacity number : Nat} {key : List Nat} {count : Count Unit}
    {slots slots' : Slots} {t t' : Tally}
    (h : remember capacity key count slots t = some ((number, slots'), t')) (count' : Count Unit)
    (later : Tally) :
    remember capacity key count' slots' later = some ((number, slots'), later) := by
  rw [remember_run] at h
  split at h
  · next entry hfound =>
    cases h
    rw [remember_run, hfound]
  · obtain ⟨r, -, h⟩ := Option.map_eq_some_iff.1 h
    cases h
    rw [remember_run, Slots.find?_put, if_pos rfl, Option.filter_some, decide_eq_true rfl]
    rfl

namespace Expr

variable {e : Expr} {s w : Nat}

theorem run_add (s w : Nat) :
    ((Count.add s w).run {}).map (·.2) = if weightLimit < w then none else some ⟨s, w⟩ := by
  show (Count.add s w {}).map (·.2) = _
  unfold Count.add
  rw [Nat.zero_add]
  by_cases h : weightLimit < w
  · rw [if_pos h, if_pos h, Option.map_none]
  · rw [if_neg h, if_neg h, Option.map_some, Nat.zero_add]

theorem count_capture {backwards : Bool} (h : e.count backwards = Count.add s w) (i : Nat) :
    (Expr.capture i e).count backwards =
      Count.add ((if backwards then 0 else 2) + s) ((if backwards then 0 else 64) + w) := by
  rw [count, h]
  cases backwards with
  | true =>
    simp only [if_true, Nat.zero_add]
  | false =>
    simp only [Bool.false_eq_true, if_false, Count.states, Count.add_bind_add, stateWeight]
    congr 1 <;> ring

/-- Before and behind an expression that is not bound to an end of the text come the loop over
bytes, the match, and the group when text is read forwards. -/
theorem weigh?_of_count {backwards : Bool} (h : e.count backwards = Count.add s w)
    (hbound : e.bound (if backwards then .textEnd else .textStart) backwards = false) :
    weigh? backwards e =
      let weight := (if backwards then 144 else 208) + w
      if weightLimit < weight then none
      else some ⟨(if backwards then 4 else 6) + s, weight⟩ := by
  have hsearch : countSearch backwards e = Count.add 3 112 := by
    rw [countSearch, hbound]
    simp only [Bool.false_eq_true, if_false, Count.states, Count.ranges, Count.choices,
      Count.add_bind_add, stateWeight, rangeWeight, choiceWeight]
  have hstates : 3 + ((if backwards then 0 else 2) + s + 1) = (if backwards then 4 else 6) + s := by
    cases backwards with
    | true => show 3 + (0 + s + 1) = 4 + s; omega
    | false => show 3 + (2 + s + 1) = 6 + s; omega
  have hweight : 112 + ((if backwards then 0 else 64) + w + 32 * 1) =
      (if backwards then 144 else 208) + w := by
    cases backwards with
    | true => show 112 + (0 + w + 32 * 1) = 144 + w; omega
    | false => show 112 + (64 + w + 32 * 1) = 208 + w; omega
  rw [weigh?, hsearch, count_capture h]
  simp only [Count.states, Count.add_bind_add, run_add, stateWeight]
  rw [hstates, hweight]

/-! ## Copies -/

variable (n : Nat) (greedy : Bool)

theorem count_copies {backwards : Bool} (h : e.count backwards = Count.add s w) :
    (Expr.repeated e (n + 1) (some (n + 1)) greedy).count backwards =
      Count.add ((n + 1) * s) ((n + 1) * w) := by
  rw [count, h, countRepeated]
  simp only [Nat.succ_ne_zero, if_false, if_true]
  exact Count.times_add n s w

/-- A loop takes a state with two choices, if there is no way around its body through the empty
text. -/
theorem count_loop {backwards : Bool} (h : e.count backwards = Count.add s w)
    (hleast : e.leastSize.any (0 < ·) = true) :
    (Expr.repeated e 0 none greedy).count backwards = Count.add (s + 1) (w + 40) := by
  rw [count, h, hleast, countRepeated]
  show (do Count.add 1 32; Count.add s w; Count.add 0 8) = _
  simp only [Count.add_bind_add]
  congr 1 <;> omega

/-- A sequence of two parts takes what its parts do, in whatever order they are counted. -/
theorem count_pair {d : Expr} {backwards : Bool} {s' w' : Nat}
    (h : e.count backwards = Count.add s w) (h' : d.count backwards = Count.add s' w') :
    (Expr.concat [e, d]).count backwards = Count.add (s + s') (w + w') := by
  rw [count]
  cases backwards with
  | true =>
    show (do d.count true; e.count true) = _
    rw [h, h', Count.add_bind_add, Nat.add_comm s', Nat.add_comm w']
  | false =>
    show (do e.count false; d.count false; pure ()) = _
    rw [bind_pure_unit, h, h', Count.add_bind_add]

/-- **Copies weigh as many times as much**: where the states of an expression are counted as a fixed
amount, copies of it are refused if that many times the amount is over the limit, together with what
every pattern takes up. -/
theorem tooHeavy_copies {s' w' : Nat} (h : e.count false = Count.add s w)
    (h' : e.count true = Count.add s' w') (hfirst : e.bound .textStart false = false)
    (hlast : e.bound .textEnd true = false) :
    (Expr.repeated e (n + 1) (some (n + 1)) greedy).tooHeavy =
      (decide (weightLimit < 208 + (n + 1) * w) || decide (weightLimit < 144 + (n + 1) * w')) := by
  have hforwards := weigh?_of_count (count_copies n greedy h)
    (by rw [bound, if_neg Bool.false_ne_true, hfirst, Bool.and_false])
  have hbackwards := weigh?_of_count (count_copies n greedy h')
    (by rw [bound, if_pos rfl, hlast, Bool.and_false])
  have hnone (weight : Nat) (t : Tally) :
      (if weightLimit < weight then none else some t).isNone = decide (weightLimit < weight) := by
    by_cases hover : weightLimit < weight
    · rw [if_pos hover, decide_eq_true hover]
      rfl
    · rw [if_neg hover, decide_eq_false hover]
      rfl
  rw [tooHeavy, hforwards, hbackwards]
  simp only [isWordList, Bool.not_false, Bool.true_and, Bool.false_eq_true, if_false, if_true,
    hnone]

example : (Expr.repeated (.concat [.repeated (.literal ['a']) 0 none true, .literal ['b']])
    60000 (some 60000) true).tooHeavy = false := by
  have hround (backwards : Bool) :
      (Expr.concat [.repeated (.literal ['a']) 0 none true, .literal ['b']]).count backwards =
        Count.add 3 104 := by
    have hfirst : (Expr.literal ['a']).count backwards = Count.add 1 32 := rfl
    have hsecond : (Expr.literal ['b']).count backwards = Count.add 1 32 := rfl
    exact count_pair (count_loop true hfirst rfl) hsecond
  exact (tooHeavy_copies 59999 true (hround false) (hround true) rfl rfl).trans (by decide)

/-- Each copy of a word takes a state for each of its bytes. -/
theorem tooHeavy_copies_literal (cs : List Char) :
    (Expr.repeated (.literal cs) (n + 1) (some (n + 1)) greedy).tooHeavy =
      decide (weightLimit < 208 + (n + 1) * (32 * (String.ofList cs).utf8ByteSize)) := by
  rw [tooHeavy_copies n greedy rfl rfl rfl rfl, stateWeight, ← Bool.decide_or]
  refine decide_eq_decide.2 ⟨?_, .inl⟩
  rintro (hforwards | hbackwards)
  · exact hforwards
  · omega

example : (Expr.repeated (.literal ['a']) 327673 (some 327673) true).tooHeavy = false ∧
    (Expr.repeated (.literal ['a']) 327674 (some 327674) true).tooHeavy = true :=
  ⟨(tooHeavy_copies_literal 327672 true ['a']).trans (by decide),
    (tooHeavy_copies_literal 327673 true ['a']).trans (by decide)⟩

end Expr

end ScanRules.Pattern
