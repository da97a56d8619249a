import ScanRules.Proofs.Text.Slice
import ScanRules.Scanner

/-!
# Where rules match

A matching machine works on the text ahead and counts characters. Seen from the whole text, it
matches at an offset and gives a span.

- `Machine.match?_le`: a match is not longer than the text ahead.
- `Pattern.matchAt_of_append`: the match at the offset behind a front part.
- `Pattern.exists_append_of_matchAt`: a match starts at its offset and ends between two characters.
- `Rule.attemptAt_of_append`: the same for a rule, which has to take at least one character.
- `Rule.firing?_eq_some_iff`, `Rule.firing?_eq_none_iff`: the first rule of a list that can fire.
- `Rule.firing?_append`, `Rule.firing?_cons_of_none`, `Rule.firing?_cons_of_some`: the same for
  lists that are put together.
- `Rule.firing?_filter`: rules that may not be tried can be left out.
-/

namespace ScanRules

namespace Pattern.Machine

/-- A run counts no more characters than there are. -/
theorem run_le {m : Machine} {fuel n : Nat} {text : List Char} :
    ∀ {threads : List Nat} {count : Nat} {best : Option Nat}, (∀ k ∈ best, k ≤ count) →
      m.run fuel threads count best text = some n → n ≤ count + text.length := by
  induction text with
  | nil =>
    intro threads count best hbest h
    rw [run] at h
    split at h
    · obtain rfl := Option.some.inj h
      exact Nat.le_refl _
    · exact hbest n h
  | cons c rest ih =>
    intro threads count best hbest h
    rw [run] at h
    -- a match that is found here ends at `count`, and so it is no longer than a later one
    have hbest' : ∀ k ∈ (if threads.any m.accepts then some count else best), k ≤ count := by
      intro k hk
      split at hk
      · exact Nat.le_of_eq (Option.some.inj hk).symm
      · exact hbest k hk
    generalize (if threads.any m.accepts then some count else best) = best' at h hbest'
    split at h
    · have := hbest' n h
      omega
    · have := ih (fun k hk => Nat.le_succ_of_le (hbest' k hk)) h
      rw [List.length_cons]
      omega

theorem match?_le {m : Machine} {before : Option Char} {text : List Char} {n : Nat}
    (h : m.match? before text = some n) : n ≤ text.length := by
  have := run_le (by simp) h
  omega

end Pattern.Machine

/-- Behind a front part of a text, a pattern matches at the offset of the rest. -/
theorem Pattern.matchAt_of_append (p : Pattern) {text : String} {a b : List Char}
    (h : text.toList = a ++ b) :
    p.matchAt text (byteSize a) = (p.matchAhead a.getLast? b).map fun n =>
      ⟨byteSize a, byteSize a + byteSize (b.take n)⟩ := by
  simp only [matchAt, h, seek?_append, Option.or_none, Option.bind_eq_bind, Option.bind_some]
  cases p.matchAhead a.getLast? b with
  | none => rfl
  | some n => rfl

/-- A pattern matches what stands at the offset, between two of the characters of the text. -/
theorem Pattern.exists_append_of_matchAt {p : Pattern} {text : String} {offset : Nat} {span : Span}
    (h : p.matchAt text offset = some span) :
    ∃ a word b, text.toList = a ++ word ++ b ∧ byteSize a = offset ∧
      span = ⟨byteSize a, byteSize a + byteSize word⟩ := by
  unfold matchAt at h
  obtain ⟨⟨before, rest⟩, hseek, h⟩ := Option.bind_eq_some_iff.1 h
  obtain ⟨n, -, hspan⟩ := Option.bind_eq_some_iff.1 h
  obtain ⟨a, htext, rfl, -⟩ := seek?_eq_some_iff.1 hseek
  refine ⟨a, rest.take n, rest.drop n, ?_, rfl, (Option.some.inj hspan).symm⟩
  rw [List.append_assoc, List.take_append_drop, htext]

namespace Rule

variable {S : Type}

/-- Taking characters takes bytes. -/
theorem byteSize_take_pos {n : Nat} {text : List Char} (hpos : 0 < n) (hle : n ≤ text.length) :
    0 < byteSize (text.take n) := by
  refine Nat.pos_of_ne_zero fun h => ?_
  rw [byteSize_eq_zero_iff, List.take_eq_nil_iff] at h
  rcases h with rfl | rfl
  · exact Nat.lt_irrefl 0 hpos
  · exact Nat.not_lt.2 hle hpos

/-- A rule matches some text iff its pattern matches, and not only the empty text. -/
theorem attemptAt_eq_some_iff {r : Rule S} {text : String} {offset : Nat} {span : Span} :
    r.attemptAt text offset = some span ↔
      r.pattern.matchAt text offset = some span ∧ span.start < span.stop := by
  simp [attemptAt, Option.filter_eq_some_iff, Span.isEmpty]

/-- Behind a front part of a text, a rule matches at the offset what it takes of the rest. -/
theorem attemptAt_of_append (r : Rule S) {text : String} {a b : List Char}
    (h : text.toList = a ++ b) :
    r.attemptAt text (byteSize a) = (r.reach a.getLast? b).map fun n =>
      ⟨byteSize a, byteSize a + byteSize (b.take n)⟩ := by
  rw [attemptAt, Pattern.matchAt_of_append _ h, reach]
  cases hm : r.pattern.matchAhead a.getLast? b with
  | none => rfl
  | some n =>
    have hle : n ≤ b.length := Pattern.Machine.match?_le hm
    by_cases hpos : 0 < n
    · have htake := byteSize_take_pos hpos hle
      have hspan : ¬ byteSize a + byteSize (b.take n) ≤ byteSize a := by omega
      simp only [Option.map_some, Option.filter_some, Span.isEmpty, hpos, hspan, decide_true,
        decide_false, Bool.not_false, if_true]
    · obtain rfl : n = 0 := by omega
      simp [Option.filter_some, Span.isEmpty]

variable [DecidableEq S]

theorem eligible_iff {r : Rule S} {states : List S} :
    r.eligible states ↔ r.state = none ∨ r.state = states.head? := by
  unfold StackUse.eligible
  cases r.state with
  | none => simp
  | some s => simp [eq_comm]

theorem firing?_eq_some_iff {rules : List (Rule S)} {states : List S} {before : Option Char}
    {text : List Char} {r : Rule S} {n : Nat} :
    firing? rules states before text = some (r, n) ↔
      ∃ earlier later, rules = earlier ++ r :: later ∧
        (r.eligible states ∧ r.reach before text = some n) ∧
        ∀ q ∈ earlier, q.eligible states → q.reach before text = none := by
  rw [firing?, List.findSome?_eq_some_iff]
  constructor
  · rintro ⟨earlier, q, later, rfl, hq, hearlier⟩
    split at hq
    · next he =>
      obtain ⟨m, hm, heq⟩ := Option.map_eq_some_iff.1 hq
      obtain ⟨rfl, rfl⟩ := Prod.mk.inj heq
      exact ⟨earlier, later, rfl, ⟨he, hm⟩, by simpa using hearlier⟩
    · cases hq
  · rintro ⟨earlier, later, rfl, ⟨he, hm⟩, hearlier⟩
    refine ⟨earlier, r, later, rfl, ?_, by simpa using hearlier⟩
    rw [if_pos he, hm, Option.map_some]

/-- A rule takes something where it may be tried, or it is passed over. -/
theorem exists_reach_or (r : Rule S) (states : List S) (before : Option Char) (text : List Char) :
    (∃ n, r.eligible states ∧ r.reach before text = some n) ∨
      (r.eligible states → r.reach before text = none) := by
  cases hn : r.reach before text with
  | none => exact .inr fun _ => rfl
  | some n =>
    cases he : r.eligible states with
    | true => exact .inl ⟨n, rfl, rfl⟩
    | false => exact .inr fun h => absurd h Bool.false_ne_true

theorem mem_of_firing? {rules : List (Rule S)} {states : List S} {before : Option Char}
    {text : List Char} {r : Rule S} {n : Nat}
    (h : firing? rules states before text = some (r, n)) : r ∈ rules := by
  obtain ⟨earlier, later, rfl, -⟩ := firing?_eq_some_iff.1 h
  exact List.mem_append_right _ List.mem_cons_self

theorem firing?_eq_none_iff {rules : List (Rule S)} {states : List S} {before : Option Char}
    {text : List Char} :
    firing? rules states before text = none ↔
      ∀ r ∈ rules, r.eligible states → r.reach before text = none := by
  simp [firing?]

/-- A list of rules fires where its front does, and else where the others do. -/
theorem firing?_append (front rules : List (Rule S)) (states : List S) (before : Option Char)
    (text : List Char) :
    firing? (front ++ rules) states before text =
      (firing? front states before text).or (firing? rules states before text) :=
  List.findSome?_append

theorem firing?_cons_of_none {r : Rule S} {states : List S} {before : Option Char}
    {text : List Char} (h : r.eligible states → r.reach before text = none)
    (rules : List (Rule S)) :
    firing? (r :: rules) states before text = firing? rules states before text := by
  rw [firing?, List.findSome?_cons]
  split
  · next found hfound =>
    split at hfound
    · next he => simp [h he] at hfound
    · cases hfound
  · rfl

theorem firing?_cons_of_some {r : Rule S} {states : List S} {before : Option Char}
    {text : List Char} {n : Nat} (he : r.eligible states) (hn : r.reach before text = some n)
    (rules : List (Rule S)) : firing? (r :: rules) states before text = some (r, n) := by
  rw [firing?, List.findSome?_cons, if_pos he, hn, Option.map_some]

/-- The same rule fires if the list is left with all rules that may be tried. -/
theorem firing?_filter {keep : Rule S → Bool} {rules : List (Rule S)} {states : List S}
    (h : ∀ r ∈ rules, r.eligible states → keep r = true) (before : Option Char)
    (text : List Char) :
    firing? (rules.filter keep) states before text = firing? rules states before text := by
  induction rules with
  | nil => rfl
  | cons r rules ih =>
    obtain ⟨hr, hrules⟩ := List.forall_mem_cons.1 h
    have hrest := ih hrules
    cases hkeep : keep r with
    | true =>
      rw [List.filter_cons_of_pos hkeep, firing?, firing?, List.findSome?_cons, List.findSome?_cons]
      split
      · rfl
      · exact hrest
    | false =>
      have hdead : ¬ r.eligible states := fun he => Bool.false_ne_true (hkeep.symm.trans (hr he))
      rw [List.filter_cons_of_neg (by simp [hkeep]), hrest,
        firing?_cons_of_none fun he => absurd he hdead]

end Rule

end ScanRules
