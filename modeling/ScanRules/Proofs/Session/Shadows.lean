import ScanRules.Proofs.Session.Interchange

/-!
# Rules in the shadow of others

A rule is in the shadow of an earlier one that has the same pattern and may be tried wherever it may
be tried itself: whenever it could fire, the earlier one fires. What it is called, takes off the
stack or puts on it never matters.

- `Rule.Shadows`, `Rule.ShadowedIn`: one rule in the shadow of another, and a rule of a list in the
  shadow of one that stands before it.
- `Scanner.tried`, `Scanner.Shadowed`: the rules of a scanner in the order in which they are tried,
  and those of them that are in a shadow.
- `Scan.turn?`: the number of the rule that is chosen at a place.
- `Scanner.without`: the scanner without some of its rules.
- `Scanner.interchangeable_without`: no rule in a shadow is ever chosen, and any of them may be left
  out.
-/

namespace ScanRules

variable {S : Type}

namespace Rule

/-- The two rules have the same pattern, and the first may be tried wherever the second may. -/
def Shadows (q r : Rule S) : Prop :=
  q.pattern.text = r.pattern.text ∧ q.pattern.flags = r.pattern.flags ∧
    (q.state = none ∨ q.state = r.state)

instance [DecidableEq S] (q r : Rule S) : Decidable (q.Shadows r) :=
  inferInstanceAs (Decidable (_ ∧ _ ∧ (_ ∨ _)))

/-- The rule of a list that has this number, counted from 0, is in the shadow of one before it. -/
def ShadowedIn (rules : List (Rule S)) (i : Nat) : Prop :=
  ∃ j < i, ∃ q ∈ rules[j]?, ∃ r ∈ rules[i]?, q.Shadows r

instance [DecidableEq S] (rules : List (Rule S)) (i : Nat) : Decidable (ShadowedIn rules i) :=
  inferInstanceAs (Decidable (∃ j < i, _))

/-- The rules of a list without those whose numbers are gone. The first one has the number
`start`. -/
def without (gone : Nat → Bool) (start : Nat) (rules : List (Rule S)) : List (Rule S) :=
  (rules.zipIdx start).filterMap fun x => if gone x.2 then none else some x.1

/-! ## Shadows -/

theorem Shadows.reach_eq {q r : Rule S} (h : q.Shadows r) (before : Option Char)
    (text : List Char) : q.reach before text = r.reach before text := by
  have hpattern : q.pattern = r.pattern := Pattern.ext_text_flags h.1 h.2.1
  rw [reach, reach, hpattern]

theorem ShadowedIn.exists_mem {earlier later : List (Rule S)} {r : Rule S}
    (h : ShadowedIn (earlier ++ r :: later) earlier.length) : ∃ q ∈ earlier, q.Shadows r := by
  obtain ⟨j, hj, q, hq, r', hr', hshadows⟩ := h
  rw [Option.mem_def, List.getElem?_append_left hj] at hq
  rw [Option.mem_def, List.getElem?_append_right (Nat.le_refl _), Nat.sub_self] at hr'
  obtain rfl : r = r' := Option.some.inj hr'
  exact ⟨q, List.mem_of_getElem? hq, hshadows⟩

variable [DecidableEq S] {states : List S} {before : Option Char} {text : List Char}

theorem Shadows.eligible {q r : Rule S} (h : q.Shadows r) (he : r.eligible states) :
    q.eligible states := by
  rw [eligible_iff] at he ⊢
  rcases h.2.2 with hfree | hstate
  · exact .inl hfree
  · rwa [hstate]

/-- A rule that fires behind rules that do not fire is in the shadow of none of them. -/
theorem not_shadowedIn_of_first {earlier later : List (Rule S)} {r : Rule S} {n : Nat}
    (hearlier : ∀ q ∈ earlier, q.eligible states → q.reach before text = none)
    (he : r.eligible states) (hn : r.reach before text = some n) :
    ¬ ShadowedIn (earlier ++ r :: later) earlier.length := by
  intro h
  obtain ⟨q, hq, hshadows⟩ := h.exists_mem
  have hnone : r.reach before text = none :=
    hshadows.reach_eq before text ▸ hearlier q hq (hshadows.eligible he)
  cases hnone.symm.trans hn

omit [DecidableEq S] in
theorem without_cons (gone : Nat → Bool) (start : Nat) (r : Rule S) (rules : List (Rule S)) :
    without gone start (r :: rules) =
      if gone start then without gone (start + 1) rules
      else r :: without gone (start + 1) rules := by
  cases hgone : gone start <;> simp [without, hgone]

/-- Where none of the rules before a list fires, the list fires as it does without rules in shadows,
by induction on the list. A rule that does not fire joins those before it. -/
theorem firing?_without {gone : Nat → Bool} {rules later : List (Rule S)} :
    ∀ {earlier : List (Rule S)},
      (∀ i, gone i = true → ShadowedIn (earlier ++ (rules ++ later)) i) →
      (∀ q ∈ earlier, q.eligible states → q.reach before text = none) →
      firing? (without gone earlier.length rules) states before text =
        firing? rules states before text := by
  induction rules with
  | nil => exact fun _ _ => rfl
  | cons r rules ih =>
    intro earlier hgone hearlier
    obtain ⟨n, he, hn⟩ | hnone := r.exists_reach_or states before text
    · have hstays : ¬ gone earlier.length = true := fun h =>
        not_shadowedIn_of_first hearlier he hn (hgone _ h)
      rw [without_cons, if_neg hstays, firing?_cons_of_some he hn, firing?_cons_of_some he hn]
    · have hrest : firing? (without gone (earlier.length + 1) rules) states before text =
          firing? rules states before text := by
        rw [← List.length_singleton (a := r), ← List.length_append]
        refine ih (by simpa using hgone) ?_
        intro q hq
        rcases List.mem_append.1 hq with hq | hq
        · exact hearlier q hq
        · obtain rfl := List.mem_singleton.1 hq
          exact hnone
      rw [without_cons, firing?_cons_of_none hnone, ← hrest]
      split
      · rfl
      · rw [firing?_cons_of_none hnone]

end Rule

namespace Scanner

/-- The rules of a scanner in the order in which they are tried. -/
def tried (scanner : Scanner S) : List (Rule S) := scanner.ignored ++ scanner.rules

/-- The number of a rule is that of the rules before it. -/
theorem getElem?_tried {scanner : Scanner S} {earlier later : List (Rule S)} {r : Rule S}
    (h : scanner.tried = earlier ++ r :: later) : scanner.tried[earlier.length]? = some r := by
  rw [h, List.getElem?_append_right (Nat.le_refl _), Nat.sub_self, List.getElem?_cons_zero]

/-- The rule with this number, counted in the order in which rules are tried, is in the shadow of an
earlier one. -/
def Shadowed (scanner : Scanner S) (i : Nat) : Prop := Rule.ShadowedIn scanner.tried i

instance [DecidableEq S] (scanner : Scanner S) (i : Nat) : Decidable (scanner.Shadowed i) :=
  inferInstanceAs (Decidable (Rule.ShadowedIn _ _))

/-- The scanner without the rules whose numbers are gone, counted in the same order. -/
def without (scanner : Scanner S) (gone : Nat → Bool) : Scanner S :=
  { ignored := Rule.without gone 0 scanner.ignored
    rules := Rule.without gone scanner.ignored.length scanner.rules }

end Scanner

namespace Scan

variable [DecidableEq S] {scanner : Scanner S} {c : Scan S} {role : Role} {r : Rule S} {n : Nat}

/-- The number of the first rule that may be tried at a place and matches there, counted in the
order in which rules are tried. -/
def turn? (scanner : Scanner S) (c : Scan S) : Option Nat :=
  scanner.tried.findIdx? fun r => r.eligible c.states && (r.reach c.before c.ahead).isSome

/-- The rule that is chosen is the first of all that are tried to fire, whatever its role. -/
theorem exists_tried_of_choice? (h : c.choice? scanner = some (role, r, n)) :
    ∃ earlier later, scanner.tried = earlier ++ r :: later ∧
      (r.eligible c.states ∧ r.reach c.before c.ahead = some n) ∧
      ∀ q ∈ earlier, q.eligible c.states → q.reach c.before c.ahead = none := by
  cases role with
  | ignored =>
    obtain ⟨earlier, later, hrules, hr, hearlier⟩ :=
      Rule.firing?_eq_some_iff.1 (choice?_eq_ignored_iff.1 h)
    refine ⟨earlier, later ++ scanner.rules, ?_, hr, hearlier⟩
    rw [Scanner.tried, hrules, List.append_assoc, List.cons_append]
  | token =>
    obtain ⟨hidle, hfiring⟩ := choice?_eq_token_iff.1 h
    obtain ⟨earlier, later, hrules, hr, hearlier⟩ := Rule.firing?_eq_some_iff.1 hfiring
    refine ⟨scanner.ignored ++ earlier, later, ?_, hr, ?_⟩
    · rw [Scanner.tried, hrules, List.append_assoc]
    · intro q hq
      rcases List.mem_append.1 hq with hq | hq
      · exact Rule.firing?_eq_none_iff.1 hidle q hq
      · exact hearlier q hq

/-- Its number is the one whose turn it is. -/
theorem turn?_eq_length {earlier later : List (Rule S)}
    (htried : scanner.tried = earlier ++ r :: later) (he : r.eligible c.states)
    (hn : r.reach c.before c.ahead = some n)
    (hearlier : ∀ q ∈ earlier, q.eligible c.states → q.reach c.before c.ahead = none) :
    c.turn? scanner = some earlier.length := by
  have hidle : (earlier.findIdx? fun q =>
      q.eligible c.states && (q.reach c.before c.ahead).isSome) = none := by
    rw [List.findIdx?_eq_none_iff]
    intro q hq
    rw [Bool.and_eq_false_imp, Option.isSome_eq_false_iff, Option.isNone_iff_eq_none]
    exact hearlier q hq
  rw [turn?, htried, List.findIdx?_append, hidle, List.findIdx?_cons, he, hn]
  simp

/-- Without rules in shadows, what is chosen stays the same. -/
theorem choice?_without {gone : Nat → Bool} (hgone : ∀ i, gone i = true → scanner.Shadowed i)
    (c : Scan S) : c.choice? (scanner.without gone) = c.choice? scanner := by
  have hfront : ∀ q ∈ ([] : List (Rule S)), q.eligible c.states → q.reach c.before c.ahead = none :=
    List.forall_mem_nil _
  have hignored : c.firing? (scanner.without gone).ignored = c.firing? scanner.ignored :=
    Rule.firing?_without hgone hfront
  unfold choice?
  rw [hignored]
  cases hidle : c.firing? scanner.ignored with
  | some found => rfl
  | none =>
    -- the ignored rules are the rules before the others, and none of them fires
    have hgone' : ∀ i, gone i = true →
        Rule.ShadowedIn (scanner.ignored ++ (scanner.rules ++ [])) i := by
      simpa [Scanner.Shadowed, Scanner.tried] using hgone
    have hrules : c.firing? (scanner.without gone).rules = c.firing? scanner.rules :=
      Rule.firing?_without hgone' (Rule.firing?_eq_none_iff.1 hidle)
    simp only [hrules]

end Scan

namespace Scanner

/-- **Rules in a shadow are dead**: whatever a scan has come to, the rule that is chosen next is not
in the shadow of another. And so any of the rules in a shadow may be left out at once, those for
tokens and those for ignored text: on every text and for all requests, the scanner without them comes
to the same. -/
theorem interchangeable_without [DecidableEq S] (scanner : Scanner S) :
    (∀ (c : Scan S) (role : Role) (r : Rule S) (n : Nat), c.choice? scanner = some (role, r, n) →
      ∃ i, c.turn? scanner = some i ∧ scanner.tried[i]? = some r ∧ ¬ scanner.Shadowed i) ∧
    ∀ gone : Nat → Bool, (∀ i, gone i = true → scanner.Shadowed i) →
      scanner.Interchangeable (scanner.without gone) := by
  constructor
  · intro c role r n h
    obtain ⟨earlier, later, htried, ⟨he, hn⟩, hearlier⟩ := Scan.exists_tried_of_choice? h
    refine ⟨earlier.length, Scan.turn?_eq_length htried he hn hearlier, getElem?_tried htried, ?_⟩
    rw [Shadowed, htried]
    exact Rule.not_shadowedIn_of_first hearlier he hn
  · intro gone hgone
    refine interchangeable_of_step_eq fun c => ?_
    exact (Scan.step_eq_of_choice?_eq (Scan.choice?_without hgone c)).symm

/-- Words in brackets, with a rule in the shadow of an ignored one, a rule in the shadow of one that
needs no state, and a rule in the shadow of one that needs the same state. -/
def crowded : Scanner String :=
  (Builder.empty.addRuleSet
    { rules := [{ name := "BLANK", pattern := " +", state := some "inside", push := ["lost"] },
        { name := "WORD", pattern := "[a-z]+" },
        { name := "OPEN", pattern := "[(]", push := ["inside"] },
        { name := "OTHER", pattern := "[a-z]+", state := some "inside", pop := true },
        { name := "CLOSE", pattern := "[)]", state := some "inside", pop := true },
        { name := "AGAIN", pattern := "[)]", state := some "inside", push := ["lost"] }]
      ignored := [{ pattern := " +" }] }).after.scanner

/-- Without the three rules in shadows, brackets around two words come to the same. Behind them, it
is the turn of the first of the two rules for a closing bracket. -/
theorem interchangeable_without_crowded :
    let gone : Nat → Bool := [1, 4, 6].contains
    let o := (crowded.lex "(a b)").answer.serveAll [.next, .item, .next, .next, .item]
    let o' := ((crowded.without gone).lex "(a b)").answer.serveAll [.next, .item, .next, .next, .item]
    let c : Scan String := { before := some 'b', ahead := [')'], states := ["inside"] }
    (∀ i, gone i = true → crowded.Shadowed i) ∧
      (crowded.without gone).rules.map (·.name) = ["WORD", "OPEN", "CLOSE"] ∧
      o'.answer = o.answer ∧ o'.after.scan = o.after.scan ∧
      o.answer.filterMap (fun reply => reply.token?.map (·.name)) =
        ["OPEN", "WORD", "WORD", "CLOSE"] ∧
      ∃ i, c.turn? crowded = some i ∧ crowded.tried[i]?.map (·.name) = some "CLOSE" ∧
        ¬ crowded.Shadowed i := by
  intro gone o o' c
  have hall : ∀ i ∈ [1, 4, 6], crowded.Shadowed i := by decide +kernel
  have hgone : ∀ i, gone i = true → crowded.Shadowed i :=
    fun i hi => hall i (List.contains_iff_mem.1 hi)
  have hsame : o' = o.under (crowded.without gone) :=
    (interchangeable_without crowded).2 gone hgone _ _
  have hclose : (c.choice? crowded).map (fun x => (x.2.1.name, x.2.2)) = some ("CLOSE", 1) := by
    decide +kernel
  obtain ⟨⟨role, r, n⟩, hchoice, hname⟩ := Option.map_eq_some_iff.1 hclose
  obtain ⟨i, hturn, hr, hfree⟩ := (interchangeable_without crowded).1 c role r n hchoice
  refine ⟨hgone, by decide +kernel, ?_, ?_, by decide +kernel, i, hturn, ?_, hfree⟩
  · rw [hsame, Outcome.under_answer]
  · rw [hsame, Outcome.under_after, Session.under_scan]
  · rw [hr]
    exact congrArg some (Prod.mk.inj hname).1

end Scanner

end ScanRules
