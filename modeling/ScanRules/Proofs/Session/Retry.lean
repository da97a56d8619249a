import ScanRules.Proofs.Builder
import ScanRules.Proofs.Session.Interchange

/-!
# Adding a set again

A set of rules that could not be added leaves the rules behind that stand in front of the one that
was refused. Once the set has been put right, it is added as a whole, and so these rules are there
twice. Nothing shows that: a rule that stands behind itself never fires.

- `Rule.firing?_append_again`: rules that are there once more do not change which one fires.
- `Builder.Grown.choice?_again`: behind a second attempt, the same rule is chosen as without the
  first one.
- `Builder.interchangeable_addRuleSet_again`: the scanner after a second attempt comes to the same
  as the one without the first.
-/

namespace ScanRules

variable {S : Type}

/-- What is written down of the rules behind others determines them. -/
theorem Rule.exists_append_of_map_toSpec {rules front : List (Rule S)} {specs : List (RuleSpec S)}
    (h : rules.map toSpec = front.map toSpec ++ specs) :
    ∃ back, rules = front ++ back ∧ back.map toSpec = specs := by
  obtain ⟨front', back, rfl, hfront, hback⟩ := List.map_eq_append_iff.1 h
  exact ⟨back, by rw [eq_of_map_toSpec_eq hfront], hback⟩

/-- Rules that are there a second time, right behind the first, do not change which rule fires. -/
theorem Rule.firing?_append_again [DecidableEq S] (front again back : List (Rule S))
    (states : List S) (before : Option Char) (text : List Char) :
    firing? (front ++ again ++ (again ++ back)) states before text =
      firing? (front ++ (again ++ back)) states before text := by
  simp only [firing?_append]
  -- the first list with a rule that fires decides, and the second copy is never that one
  cases firing? front states before text with
  | some found => rfl
  | none =>
    cases firing? again states before text with
    | some found => rfl
    | none => rfl

/-- Lists of which one holds some rules a second time fire alike. -/
theorem Rule.firing?_eq_of_again [DecidableEq S] {start once twice direct : List (Rule S)}
    {front back : List (RuleSpec S)} (honce : once.map toSpec = start.map toSpec ++ front)
    (htwice : twice.map toSpec = once.map toSpec ++ (front ++ back))
    (hdirect : direct.map toSpec = start.map toSpec ++ (front ++ back)) (states : List S)
    (before : Option Char) (text : List Char) :
    firing? twice states before text = firing? direct states before text := by
  -- the same text of rules was compiled twice, and it has come to the same rules
  obtain ⟨again, rfl, hagain⟩ := exists_append_of_map_toSpec honce
  obtain ⟨whole, rfl, hwhole⟩ := exists_append_of_map_toSpec hdirect
  rw [← hagain] at hwhole
  obtain ⟨rest, rfl, hrest⟩ := exists_append_of_map_toSpec hwhole
  have hall : twice = start ++ again ++ (again ++ rest) := by
    refine eq_of_map_toSpec_eq ?_
    rw [htwice, honce, ← hagain, ← hrest]
    simp
  rw [hall, firing?_append_again]

namespace Builder

variable {b : Builder S}

/-- A set without faults is added as a whole. -/
theorem addRuleSet_of_whole {set : RuleSet S} (h : ∀ x ∈ entries set, x.2.fault? = none)
    (b : Builder S) :
    (b.addRuleSet set).answer = .ok () ∧ Grown (entries set) b (b.addRuleSet set).after := by
  obtain ⟨hanswer, hgrown⟩ := forEach_addSpec (entries set) b
  have hfault : fault? (entries set) = none := List.findSome?_eq_none_iff.2 h
  rw [hfault] at hanswer
  rw [sound_eq_self h] at hgrown
  exact ⟨hanswer, hgrown⟩

variable [DecidableEq S]

/-- Whether the front of some rules has been added before does not change which rule is chosen. -/
theorem Grown.choice?_again {once twice direct : Builder S} {front whole : List (Role × RuleSpec S)}
    (hfront : front <+: whole) (honce : Grown front b once) (htwice : Grown whole once twice)
    (hdirect : Grown whole b direct) (c : Scan S) :
    c.choice? twice.scanner = c.choice? direct.scanner := by
  obtain ⟨back, rfl⟩ := hfront
  have hrules : c.firing? twice.rules = c.firing? direct.rules :=
    Rule.firing?_eq_of_again honce.rules (by rw [htwice.rules, specsOf_append])
      (by rw [hdirect.rules, specsOf_append]) _ _ _
  have hignored : c.firing? twice.ignored = c.firing? direct.ignored :=
    Rule.firing?_eq_of_again honce.ignored (by rw [htwice.ignored, specsOf_append])
      (by rw [hdirect.ignored, specsOf_append]) _ _ _
  exact Scan.choice?_congr hrules hignored

/-- **A failed attempt leaves no trace**: let a set be without faults, and let it begin with the rules
of another one as far as those can be added. When it is added after an attempt with the other one,
the scanner is interchangeable with the one that is built without that attempt. -/
theorem interchangeable_addRuleSet_again (b : Builder S) {set set' : RuleSet S}
    (hwhole : ∀ x ∈ entries set', x.2.fault? = none)
    (hagrees : sound (entries set) <+: entries set') :
    let again := (b.addRuleSet set).after.addRuleSet set'
    let direct := b.addRuleSet set'
    again.answer = .ok () ∧ direct.answer = .ok () ∧
      again.after.build.answer.Interchangeable direct.after.build.answer := by
  intro again direct
  have honce : Grown (sound (entries set)) b (b.addRuleSet set).after :=
    (forEach_addSpec (entries set) b).2
  obtain ⟨hagain, htwice⟩ := addRuleSet_of_whole hwhole (b.addRuleSet set).after
  obtain ⟨hdirect, hgrown⟩ := addRuleSet_of_whole hwhole b
  refine ⟨hagain, hdirect, Scanner.interchangeable_of_step_eq fun c => ?_⟩
  exact Scan.step_eq_of_choice?_eq (honce.choice?_again hagrees htwice hgrown c)

/-- Lists in brackets, with an ignored rule that is at fault behind one that is not. -/
def draft : RuleSet String where
  rules := [{ name := "OPEN", pattern := "[(]", push := ["inside"] },
    { name := "CLOSE", pattern := "[)]", state := some "inside", pop := true }]
  ignored := [{ pattern := " +" }, { pattern := "#[" }]

/-- The same with that rule put right, and one more behind it. -/
def corrected : RuleSet String :=
  { draft with ignored := [{ pattern := " +" }, { pattern := "#+" }, { pattern := "," }] }

/-- A builder with one rule. The draft leaves three rules behind, which are there twice in the end. -/
theorem interchangeable_addRuleSet_again_draft :
    let b : Builder String := (Builder.empty.add "WORD" "[a-z]+").after
    let again := (b.addRuleSet draft).after.addRuleSet corrected
    let direct := b.addRuleSet corrected
    let o := (direct.after.build.answer.lex "(a, #(b").answer.serveAll [.next, .item, .next, .next]
    let o' := (again.after.build.answer.lex "(a, #(b").answer.serveAll [.next, .item, .next, .next]
    (b.addRuleSet draft).answer.toBool = false ∧
      (again.after.rules.map (·.name), again.after.ignored.length) =
        (["WORD", "OPEN", "CLOSE", "OPEN", "CLOSE"], 4) ∧
      (∀ x ∈ entries corrected, x.2.fault? = none) ∧
      sound (entries draft) <+: entries corrected ∧
      again.answer = .ok () ∧ o.answer = o'.answer ∧ o.after.scan = o'.after.scan ∧
      o.answer.filterMap (fun reply => reply.token?.map (·.name)) =
        ["OPEN", "WORD", "OPEN", "WORD"] ∧
      o.after.scan.states = ["inside", "inside"] := by
  intro b again direct o o'
  have hwhole : ∀ x ∈ entries corrected, x.2.fault? = none := by decide +kernel
  have hagrees : sound (entries draft) <+: entries corrected := by decide +kernel
  obtain ⟨hagain, -, hsame⟩ := interchangeable_addRuleSet_again b hwhole hagrees
  have ho : o = o'.under direct.after.build.answer := hsame _ _
  refine ⟨by decide +kernel, by decide +kernel, hwhole, hagrees, hagain, ?_, ?_, by decide +kernel,
    by decide +kernel⟩
  · rw [ho, Outcome.under_answer]
  · rw [ho, Outcome.under_after, Session.under_scan]

end Builder

end ScanRules
