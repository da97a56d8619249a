import ScanRules.Proofs.Pattern.Assertion
import ScanRules.Proofs.Scan.Step

/-!
# Scans that do not look around

Where no pattern of a scanner has an assertion, a step depends only on the text that is ahead, and
of this text only on what the step takes.

- `Scanner.AssertionFree`: no pattern of the scanner has an assertion.
- `Scanner.AssertionFree.choice?_eq`: what is behind does not matter.
- `Scanner.AssertionFree.choice?_of_append`: what is far ahead does not matter, either.
- `Scanner.blocks`: a scanner of this kind.
-/

namespace ScanRules

variable {S : Type}

/-- None of the patterns of the scanner has an assertion in it. -/
def Scanner.AssertionFree (scanner : Scanner S) : Prop :=
  ∀ r ∈ scanner.ignored ++ scanner.rules, r.pattern.assertionFree

variable [DecidableEq S]

namespace Rule

variable {rules : List (Rule S)} {r : Rule S} {n : Nat} {states : List S} {before : Option Char}
  {a b : List Char}

theorem firing?_eq_of_assertionFree (h : ∀ r ∈ rules, r.pattern.assertionFree) (states : List S)
    (before before' : Option Char) (text : List Char) :
    firing? rules states before text = firing? rules states before' text := by
  induction rules with
  | nil => rfl
  | cons r rules ih =>
    obtain ⟨hr, hrules⟩ := List.forall_mem_cons.1 h
    have ih' := ih hrules
    unfold firing? at ih' ⊢
    rw [List.findSome?_cons, List.findSome?_cons, reach_eq_of_assertionFree hr before before', ih']

/-- Where no rule of a list fires, none fires over a front part of the text. -/
theorem firing?_eq_none_of_append (h : ∀ r ∈ rules, r.pattern.assertionFree)
    (hnone : firing? rules states before (a ++ b) = none) :
    firing? rules states before a = none := by
  rw [firing?_eq_none_iff] at hnone ⊢
  intro r hr he
  obtain heq | ⟨n, hn, -⟩ := reach_append (h r hr) before a b
  · rw [← heq, hnone r hr he]
  · cases (hnone r hr he).symm.trans hn

/-- The rule that fires over a text fires over a front part of it that holds what it takes. -/
theorem firing?_eq_some_of_append (h : ∀ r ∈ rules, r.pattern.assertionFree)
    (hsome : firing? rules states before (a ++ b) = some (r, n)) (hle : n ≤ a.length) :
    firing? rules states before a = some (r, n) := by
  obtain ⟨earlier, later, rfl, ⟨he, hn⟩, hearlier⟩ := firing?_eq_some_iff.1 hsome
  refine firing?_eq_some_iff.2 ⟨earlier, later, rfl, ⟨he, ?_⟩, ?_⟩
  · obtain heq | ⟨k, hk, hlt⟩ := reach_append (h r (by simp)) before a b
    · exact heq.symm.trans hn
    · -- the rule would take more than it does
      obtain rfl := Option.some.inj (hk.symm.trans hn)
      omega
  · -- the rules in front take nothing of the text, so they take nothing of its front part
    have hfront : ∀ q ∈ earlier, q.pattern.assertionFree := fun q hq => h q (by simp [hq])
    rw [← firing?_eq_none_iff] at hearlier ⊢
    exact firing?_eq_none_of_append hfront hearlier

end Rule

namespace Scanner.AssertionFree

variable {scanner : Scanner S} {c c' : Scan S} {role : Role} {r : Rule S} {n : Nat}
  {a b : List Char}

omit [DecidableEq S] in
theorem ignored (h : scanner.AssertionFree) : ∀ r ∈ scanner.ignored, r.pattern.assertionFree :=
  (List.forall_mem_append.1 h).1

omit [DecidableEq S] in
theorem rules (h : scanner.AssertionFree) : ∀ r ∈ scanner.rules, r.pattern.assertionFree :=
  (List.forall_mem_append.1 h).2

/-- With the same text ahead and the same stack, the same rule is chosen, whatever is behind. -/
theorem choice?_eq (h : scanner.AssertionFree) (hahead : c.ahead = c'.ahead)
    (hstates : c.states = c'.states) : c.choice? scanner = c'.choice? scanner := by
  have hfiring : ∀ {rules : List (Rule S)}, (∀ r ∈ rules, r.pattern.assertionFree) →
      c.firing? rules = c'.firing? rules := by
    intro rules hrules
    rw [Scan.firing?, Scan.firing?, hahead, hstates,
      Rule.firing?_eq_of_assertionFree hrules c'.states c.before c'.before]
  rw [Scan.choice?, Scan.choice?, hfiring h.ignored, hfiring h.rules]

/-- What is chosen with a text ahead is chosen with a front part of it that holds what is taken. -/
theorem choice?_of_append (h : scanner.AssertionFree) (hahead : c.ahead = a ++ b)
    (hchoice : c.choice? scanner = some (role, r, n)) (hle : n ≤ a.length) :
    ({ c with ahead := a } : Scan S).choice? scanner = some (role, r, n) := by
  cases role with
  | ignored =>
    have hi := Scan.choice?_eq_ignored_iff.1 hchoice
    rw [Scan.firing?, hahead] at hi
    exact Scan.choice?_eq_ignored_iff.2 (Rule.firing?_eq_some_of_append h.ignored hi hle)
  | token =>
    obtain ⟨hi, ht⟩ := Scan.choice?_eq_token_iff.1 hchoice
    rw [Scan.firing?, hahead] at hi ht
    exact Scan.choice?_eq_token_iff.2 ⟨Rule.firing?_eq_none_of_append h.ignored hi,
      Rule.firing?_eq_some_of_append h.rules ht hle⟩

end Scanner.AssertionFree

/-- Words, and blocks in angle brackets that may go over several lines. -/
def Scanner.blocks : Scanner String :=
  (Builder.empty.addRuleSet
    { rules := [{ name := "WORD", pattern := "[a-zé]+" },
        { name := "OPEN", pattern := "<", push := ["block"] },
        { name := "CLOSE", pattern := ">", state := some "block", pop := true }]
      ignored := [{ pattern := " +" }, { pattern := "\n", state := some "block" }] }).after.scanner

theorem Scanner.assertionFree_blocks : blocks.AssertionFree :=
  List.all_eq_true.1 (by decide +kernel)

end ScanRules
