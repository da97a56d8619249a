import ScanRules.Proofs.Session.Run

/-!
# Ignored rules as token rules

Ignored rules are token rules that come first and whose tokens are dropped.

- `Rule.Alike`: rules that differ at most in their names.
- `Scanner.merged`: a scanner that ignores nothing and has further rules in front of the others.
- `Scanner.FiresMerged`, `Scanner.StopsMerged`: what its rules and errors have to do with those of
  the scanner that it is made from.
- `Scan.matches_step_merged`: one step of both.
- `Scanner.run_lex_merged`: whole runs of both.
-/

namespace ScanRules

variable {S : Type}

namespace Rule

/-- The rules are the same but for their names. -/
def Alike (r r' : Rule S) : Prop :=
  r.toStackUse = r'.toStackUse ∧ r.pattern = r'.pattern

variable {r r' : Rule S}

theorem Alike.reach_eq (h : r.Alike r') (before : Option Char) (text : List Char) :
    r.reach before text = r'.reach before text := by
  rw [reach, reach, h.2]

variable [DecidableEq S]

/-- Of two lists of rules that are alike, the rules at one index fire, or none of either. -/
theorem firing?_of_alike {rules rules' : List (Rule S)} (h : List.Forall₂ Alike rules rules')
    (states : List S) (before : Option Char) (text : List Char) :
    (firing? rules states before text = none ∧ firing? rules' states before text = none) ∨
      ∃ r r' n, (r, r') ∈ rules.zip rules' ∧ r.Alike r' ∧
        firing? rules states before text = some (r, n) ∧
        firing? rules' states before text = some (r', n) := by
  induction h with
  | nil => exact .inl ⟨rfl, rfl⟩
  | @cons r r' rules rules' halike _ ih =>
    have heligible : r.eligible states = r'.eligible states := by rw [halike.1]
    have hreach := halike.reach_eq before text
    simp only [firing?, List.findSome?_cons, List.zip_cons_cons, ← heligible, ← hreach]
    by_cases he : r.eligible states
    · cases hr : r.reach before text with
      | some n => exact .inr ⟨r, r', n, List.mem_cons_self, halike, by simp [he], by simp [he]⟩
      | none =>
        simp only [he, if_true, Option.map_none]
        refine ih.imp_right ?_
        rintro ⟨q, q', n, hmem, hq⟩
        exact ⟨q, q', n, List.mem_cons_of_mem _ hmem, hq⟩
    · simp only [he]
      refine ih.imp_right ?_
      rintro ⟨q, q', n, hmem, hq⟩
      exact ⟨q, q', n, List.mem_cons_of_mem _ hmem, hq⟩

end Rule

namespace Scanner

/-- The scanner with further rules in front, which ignores nothing. -/
def merged (scanner : Scanner S) (front : List (Rule S)) : Scanner S :=
  { rules := front ++ scanner.rules }

/-- A rule of the merged scanner fires in place of a rule of the scanner. -/
inductive FiresMerged (scanner : Scanner S) (front : List (Rule S)) :
    Role → Rule S → Role → Rule S → Prop
  | token {r : Rule S} : r ∈ scanner.rules → FiresMerged scanner front .token r .token r
  | ignored {r r' : Rule S} : (r, r') ∈ scanner.ignored.zip front →
    FiresMerged scanner front .ignored r .token r'

/-- The errors are the same, but where a rule in front underflows the error has its name. -/
inductive StopsMerged (scanner : Scanner S) (front : List (Rule S)) : Error → Error → Prop
  | noMatch (position : Position) :
    StopsMerged scanner front (.noMatch position) (.noMatch position)
  | token {r : Rule S} (position : Position) : r ∈ scanner.rules →
    StopsMerged scanner front (.underflow r.name position) (.underflow r.name position)
  | ignored {r r' : Rule S} (position : Position) : (r, r') ∈ scanner.ignored.zip front →
    StopsMerged scanner front (.underflow r.name position) (.underflow r'.name position)

end Scanner

namespace Scan

variable {scanner : Scanner S} {front : List (Rule S)}

/-- Rules that are alike fire alike, or underflow both. -/
theorem fire_of_alike {r r' : Rule S} (h : r.Alike r') (c : Scan S) (n : Nat) :
    (∃ d, c.fire r n = .ok d ∧ c.fire r' n = .ok d) ∨
      (c.fire r n = .error (.underflow r.name c.position) ∧
        c.fire r' n = .error (.underflow r'.name c.position)) := by
  unfold fire
  rw [← h.1]
  cases r.transition? c.states with
  | some states => exact .inl ⟨_, rfl, rfl⟩
  | none => exact .inr ⟨rfl, rfl⟩

/-- What fires in the merged scanner makes the same tokens, once those with marks are dropped. -/
theorem filterMap_token?_of_matches {marked : String → Bool} {fired fired' : List (Fired S)}
    (hfront : ∀ r ∈ front, marked r.name = true)
    (hrules : ∀ r ∈ scanner.rules, marked r.name = false)
    (h : List.Forall₂ (Fired.Matches (scanner.FiresMerged front)) fired fired') :
    fired.filterMap (·.token?) =
      (fired'.filterMap (·.token?)).filter fun t => !marked t.1.name := by
  induction h with
  | nil => rfl
  | @cons f g fired fired' hmatch _ ih =>
    obtain ⟨c, role, r, n, d⟩ := f
    obtain ⟨c', role', r', n', d'⟩ := g
    obtain ⟨rfl, hfires, rfl, rfl⟩ := hmatch
    cases hfires with
    | token hmem =>
      have hkeep : marked (c.tokenOf r n).name = false := hrules r hmem
      show (c.tokenOf r n, d.states) :: fired.filterMap (·.token?) =
        ((c.tokenOf r n, d.states) :: fired'.filterMap (·.token?)).filter _
      rw [List.filter_cons_of_pos (by rw [hkeep, Bool.not_false]), ih]
    | ignored hmem =>
      have hdrop : marked (c.tokenOf r' n).name = true := hfront r' (List.of_mem_zip hmem).2
      show fired.filterMap (·.token?) =
        ((c.tokenOf r' n, d.states) :: fired'.filterMap (·.token?)).filter _
      rw [List.filter_cons_of_neg (by simp [hdrop]), ih]

variable [DecidableEq S]

/-- At one place both scanners choose nothing, or rules that are alike. -/
theorem choice?_merged (h : List.Forall₂ Rule.Alike scanner.ignored front) (c : Scan S) :
    (c.choice? scanner = none ∧ c.choice? (scanner.merged front) = none) ∨
      ∃ role r role' r' n, scanner.FiresMerged front role r role' r' ∧ r.Alike r' ∧
        c.choice? scanner = some (role, r, n) ∧
        c.choice? (scanner.merged front) = some (role', r', n) := by
  have hmerged : c.choice? (scanner.merged front) =
      ((c.firing? front).or (c.firing? scanner.rules)).map (.token, ·) := by
    rw [← firing?_append]
    rfl
  obtain ⟨hi, hf⟩ | ⟨r, r', n, hmem, halike, hi, hf⟩ :=
    Rule.firing?_of_alike h c.states c.before c.ahead
  · -- nothing is ignored here, so the token rules decide in both
    rw [hmerged, show c.firing? front = none from hf, Option.none_or]
    cases ht : c.firing? scanner.rules with
    | none => exact .inl ⟨choice?_eq_none_iff.2 ⟨hi, ht⟩, rfl⟩
    | some found =>
      obtain ⟨r, n⟩ := found
      exact .inr ⟨.token, r, .token, r, n, .token (Rule.mem_of_firing? ht), ⟨rfl, rfl⟩,
        choice?_eq_token_iff.2 ⟨hi, ht⟩, rfl⟩
  · refine .inr ⟨.ignored, r, .token, r', n, .ignored hmem, halike,
      choice?_eq_ignored_iff.2 hi, ?_⟩
    rw [hmerged, show c.firing? front = some (r', n) from hf]
    rfl

/-- One step of both scanners. -/
theorem matches_step_merged (h : List.Forall₂ Rule.Alike scanner.ignored front) (c : Scan S) :
    Step.Matches (scanner.FiresMerged front) (scanner.StopsMerged front) (c.step scanner)
      (c.step (scanner.merged front)) := by
  by_cases hnil : c.ahead = []
  · rw [step_eq_ended_iff.2 hnil, step_eq_ended_iff.2 hnil]
    exact .ended
  · obtain ⟨hc, hc'⟩ | ⟨role, r, role', r', n, hfires, halike, hc, hc'⟩ := choice?_merged h c
    · rw [step_eq_failed_iff.2 ⟨hnil, .inl ⟨hc, rfl⟩⟩, step_eq_failed_iff.2 ⟨hnil, .inl ⟨hc', rfl⟩⟩]
      exact .failed (.noMatch c.position)
    · obtain ⟨d, hd, hd'⟩ | ⟨he, he'⟩ := fire_of_alike halike c n
      · rw [step_eq_fired_iff.2 ⟨hnil, hc, hd⟩, step_eq_fired_iff.2 ⟨hnil, hc', hd'⟩]
        exact .fired hfires
      · rw [step_eq_failed_iff.2 ⟨hnil, .inr ⟨role, r, n, hc, he⟩⟩,
          step_eq_failed_iff.2 ⟨hnil, .inr ⟨role', r', n, hc', he'⟩⟩]
        cases hfires with
        | token hmem => exact .failed (.token c.position hmem)
        | ignored hmem => exact .failed (.ignored c.position hmem)

end Scan

/-- **Ignored rules are token rules in front whose tokens are dropped**: let the rules in front be
the ignored ones under marked names, which none of the other rules has. On every text the run of the
scanner has the tokens of the run of the merged one, with the stacks after them, but for the marked
ones. Both runs end in the same way and with the same error, up to the marked name, and stand at the
same place with the same stack then. -/
theorem Scanner.run_lex_merged [DecidableEq S] {scanner : Scanner S} {front : List (Rule S)}
    {marked : String → Bool} (halike : List.Forall₂ Rule.Alike scanner.ignored front)
    (hfront : ∀ r ∈ front, marked r.name = true)
    (hrules : ∀ r ∈ scanner.rules, marked r.name = false) (input : String) :
    let o := (scanner.lex input).answer.run
    let o' := ((scanner.merged front).lex input).answer.run
    o.answer.tokens = (o'.answer.tokens.filter fun t => !marked t.1.name) ∧
      Option.Rel (scanner.StopsMerged front) o.answer.stopped o'.answer.stopped ∧
      o.after.scan = o'.after.scan := by
  intro o o'
  obtain ⟨fired, last, stopped, hcourse⟩ := Scan.exists_course scanner (.start input.toList [])
  obtain ⟨fired', stopped', hcourse', hfired, hstopped⟩ :=
    hcourse.of_matches (Scan.matches_step_merged halike)
  have hrun : o.answer = ⟨fired.filterMap (·.token?), stopped⟩ ∧ o.after.scan = last :=
    Session.run_of_course hcourse rfl rfl rfl
  have hrun' : o'.answer = ⟨fired'.filterMap (·.token?), stopped'⟩ ∧ o'.after.scan = last :=
    Session.run_of_course hcourse' rfl rfl rfl
  rw [hrun.1, hrun'.1, hrun.2, hrun'.2]
  exact ⟨Scan.filterMap_token?_of_matches hfront hrules hfired, hstopped, rfl⟩

/-- Words in brackets, where the brackets are ignored but keep count of themselves. -/
def Scanner.nested : Scanner String :=
  (Builder.empty.addRuleSet
    { rules := [{ name := "WORD", pattern := "[a-z]+" }]
      ignored :=
        [{ pattern := "[(]", push := ["inside"] }, { pattern := "[)]", pop := true },
          { pattern := " +" }] }).after.scanner

/-- The brackets and blanks as tokens of one marked name, in a text with a bracket too many. -/
theorem Scanner.run_lex_merged_nested :
    let marked : String → Bool := (· == "-")
    let front := nested.ignored.map fun r => { r with name := "-" }
    let o := (nested.lex "a (b c))").answer.run
    let o' := ((nested.merged front).lex "a (b c))").answer.run
    o.answer.tokens = (o'.answer.tokens.filter fun t => !marked t.1.name) ∧
      o.answer.tokens = [(⟨"WORD", "a", ⟨0, 1, 1⟩⟩, []), (⟨"WORD", "b", ⟨3, 1, 4⟩⟩, ["inside"]),
        (⟨"WORD", "c", ⟨5, 1, 6⟩⟩, ["inside"])] ∧
      o.answer.stopped = some (.underflow "" ⟨7, 1, 8⟩) ∧
      o'.answer.stopped = some (.underflow "-" ⟨7, 1, 8⟩) ∧
      o.after.scan = o'.after.scan := by
  intro marked front o o'
  have halike : List.Forall₂ Rule.Alike nested.ignored front :=
    List.forall₂_map_right_iff.2 (List.forall₂_same.2 fun r _ => ⟨rfl, rfl⟩)
  have hfront : ∀ r ∈ front, marked r.name = true := by
    intro r hr
    obtain ⟨q, -, rfl⟩ := List.mem_map.1 hr
    rfl
  have hrules : ∀ r ∈ nested.rules, marked r.name = false := by decide +kernel
  obtain ⟨htokens, -, hscan⟩ := run_lex_merged halike hfront hrules "a (b c))"
  refine ⟨htokens, ?_, ?_, ?_, hscan⟩
  · decide +kernel
  · decide +kernel
  · decide +kernel

end ScanRules
