import ScanRules.Proofs.Session.Anew
import ScanRules.Proofs.Session.Shadows

/-!
# Live rules

A rule that needs a state is of no use unless a rule that is of use puts this state on the stack. So
rules that only enable one another are dead, and none of their states is ever seen.

- `Scanner.Live`: the least set of rules that has all rules without a required state, and each rule
  whose state is put on the stack by one of the set.
- `Rule.enabled`, `Rule.spread`: which rules are enabled by some states, and the states that
  follow from them. `Rule.mem_spread_of_mem_push` and `Rule.spread_induction` say that these are the
  least ones.
- `Scanner.liveStates`, `Scanner.live_iff`: so it can be computed which rules are live.
- `Scanner.LiveStack`, `Scanner.invariant_liveStack`: all states on the stack are those of live
  rules.
- `Scanner.pruned`, `Scanner.live_underway`: only live rules fire, and the others can be left out.
-/

namespace ScanRules

variable {S : Type}

/-- The rules of a scanner that can ever be tried: those that need no state, and those that need a
state which such a rule puts on the stack. -/
inductive Scanner.Live (scanner : Scanner S) : Rule S → Prop
  | free {r : Rule S} : r ∈ scanner.tried → r.state = none → Live scanner r
  | enabled {r q : Rule S} {s : S} : r ∈ scanner.tried → r.state = some s →
    Live scanner q → s ∈ q.push → Live scanner r

theorem Scanner.Live.mem_tried {scanner : Scanner S} {r : Rule S} (h : scanner.Live r) :
    r ∈ scanner.tried := by
  cases h with
  | free hr _ => exact hr
  | enabled hr _ _ _ => exact hr

/-- What is on the stack after a match was put there by the rule or has been there before. -/
theorem StackUse.mem_of_transition? {u : StackUse S} {states states' : List S}
    (h : u.transition? states = some states') {s : S} (hs : s ∈ states') :
    s ∈ u.push ∨ s ∈ states := by
  obtain ⟨state, pop, push⟩ := u
  match pop, states with
  | true, [] => cases h
  | true, _ :: below =>
    obtain rfl := Option.some.inj h
    rcases List.mem_append.1 hs with hpush | hbelow
    · exact .inl (List.mem_reverse.1 hpush)
    · exact .inr (List.mem_cons_of_mem _ hbelow)
  | false, states =>
    obtain rfl := Option.some.inj h
    rcases List.mem_append.1 hs with hpush | hbelow
    · exact .inl (List.mem_reverse.1 hpush)
    · exact .inr hbelow

variable [DecidableEq S]

namespace Rule

/-- May the rule be tried on some stack of these states? -/
def enabledBy (known : List S) (r : Rule S) : Bool := r.state.all fun s => s ∈ known

/-- The rules of a list that are enabled by known states. -/
def enabled (known : List S) (rules : List (Rule S)) : List (Rule S) :=
  rules.filter (·.enabledBy known)

/-- The other rules of the list. -/
def disabled (known : List S) (rules : List (Rule S)) : List (Rule S) :=
  rules.filter fun r => !r.enabledBy known

theorem mem_enabled_iff {known : List S} {rules : List (Rule S)} {r : Rule S} :
    r ∈ enabled known rules ↔ r ∈ rules ∧ r.enabledBy known := List.mem_filter

theorem mem_disabled_iff {known : List S} {rules : List (Rule S)} {r : Rule S} :
    r ∈ disabled known rules ↔ r ∈ rules ∧ r.enabledBy known = false := by
  simp [disabled]

/-- The states that can come on a stack of known states: the rules that are enabled put theirs on,
and with them further rules may be enabled. -/
def spread (known : List S) (rules : List (Rule S)) : List S :=
  if _ : enabled known rules = [] then known
  else spread ((enabled known rules).flatMap (·.push) ++ known) (disabled known rules)
termination_by rules.length
decreasing_by
  rename_i hsome
  obtain ⟨r, hr⟩ := List.exists_mem_of_ne_nil _ hsome
  obtain ⟨hmem, henabled⟩ := mem_enabled_iff.1 hr
  exact List.length_filter_lt_length_iff_exists.2 ⟨r, hmem, by simp [henabled]⟩

variable {known : List S} {r : Rule S}

theorem enabledBy_iff : r.enabledBy known ↔ ∀ s, r.state = some s → s ∈ known := by
  simp [enabledBy, Option.all_eq_true]

theorem subset_spread (known : List S) (rules : List (Rule S)) : known ⊆ spread known rules := by
  fun_induction spread known rules with
  | case1 => exact List.Subset.refl _
  | case2 known rules _ ih => exact List.Subset.trans (List.subset_append_right ..) ih

/-- The states are closed: what a rule puts on that they enable is among them. -/
theorem mem_spread_of_mem_push {rules : List (Rule S)} (hr : r ∈ rules)
    (henabled : r.enabledBy (spread known rules)) {s : S} (hs : s ∈ r.push) :
    s ∈ spread known rules := by
  fun_induction spread known rules with
  | case1 known rules hnone =>
    -- no rule is enabled any more, and so `r` is not
    have hmem : r ∈ enabled known rules := mem_enabled_iff.2 ⟨hr, henabled⟩
    rw [hnone] at hmem
    cases hmem
  | case2 known rules _ ih =>
    cases hearly : r.enabledBy known with
    | true =>
      have hmem : r ∈ enabled known rules := mem_enabled_iff.2 ⟨hr, hearly⟩
      exact subset_spread _ _ (List.mem_append_left _ (List.mem_flatMap.2 ⟨r, hmem, hs⟩))
    | false => exact ih (mem_disabled_iff.2 ⟨hr, hearly⟩) henabled

/-- The states are the least ones that are closed: whatever holds of the known ones, and of all that
a rule puts on if it holds of the state that the rule needs, holds of them. -/
theorem spread_induction {P : S → Prop} {rules : List (Rule S)} (hknown : ∀ s ∈ known, P s)
    (hpush : ∀ r ∈ rules, (∀ s, r.state = some s → P s) → ∀ s ∈ r.push, P s) :
    ∀ s ∈ spread known rules, P s := by
  fun_induction spread known rules with
  | case1 => exact hknown
  | case2 known rules _ ih =>
    refine ih ?_ fun r hr => hpush r (mem_disabled_iff.1 hr).1
    intro s hs
    rcases List.mem_append.1 hs with hs | hs
    · obtain ⟨r, hr, hs⟩ := List.mem_flatMap.1 hs
      obtain ⟨hmem, henabled⟩ := mem_enabled_iff.1 hr
      exact hpush r hmem (fun t ht => hknown t (enabledBy_iff.1 henabled t ht)) s hs
    · exact hknown s hs

end Rule

namespace Scanner

variable {scanner : Scanner S} {r : Rule S}

/-- The states that live rules put on the stack. -/
def liveStates (scanner : Scanner S) : List S := Rule.spread [] scanner.tried

theorem mem_liveStates_of_live (h : scanner.Live r) : ∀ s ∈ r.push, s ∈ scanner.liveStates := by
  induction h with
  | free hr hfree =>
    refine fun s hs => Rule.mem_spread_of_mem_push hr ?_ hs
    exact Rule.enabledBy_iff.2 fun t ht => nomatch hfree.symm.trans ht
  | @enabled r q s hr hstate _ hs ih =>
    refine fun t ht => Rule.mem_spread_of_mem_push hr ?_ ht
    refine Rule.enabledBy_iff.2 fun u hu => ?_
    obtain rfl := Option.some.inj (hstate.symm.trans hu)
    exact ih s hs

omit [DecidableEq S] in
theorem live_of_state (hr : r ∈ scanner.tried)
    (h : ∀ s, r.state = some s → ∃ q, scanner.Live q ∧ s ∈ q.push) : scanner.Live r := by
  cases hstate : r.state with
  | none => exact .free hr hstate
  | some s =>
    obtain ⟨q, hq, hs⟩ := h s hstate
    exact .enabled hr hstate hq hs

theorem exists_live_of_mem_liveStates :
    ∀ s ∈ scanner.liveStates, ∃ q, scanner.Live q ∧ s ∈ q.push :=
  Rule.spread_induction (List.forall_mem_nil _) fun q hq hneeds _ hs =>
    ⟨q, live_of_state hq hneeds, hs⟩

/-- A rule is live if it is enabled by the states that live rules put on. -/
theorem live_iff : scanner.Live r ↔ r ∈ scanner.tried ∧ r.enabledBy scanner.liveStates := by
  constructor
  · intro h
    refine ⟨h.mem_tried, Rule.enabledBy_iff.2 fun s hs => ?_⟩
    cases h with
    | free _ hfree => cases hfree.symm.trans hs
    | enabled _ hstate hq hpush =>
      obtain rfl := Option.some.inj (hstate.symm.trans hs)
      exact mem_liveStates_of_live hq _ hpush
  · rintro ⟨hr, henabled⟩
    exact live_of_state hr fun s hs =>
      exists_live_of_mem_liveStates s (Rule.enabledBy_iff.1 henabled s hs)

/-- All states on the stack have been put there by live rules. -/
def LiveStack (scanner : Scanner S) (c : Scan S) : Prop :=
  ∀ s ∈ c.states, ∃ q, scanner.Live q ∧ s ∈ q.push

/-- On such a stack, only live rules may be tried. -/
theorem LiveStack.live_of_eligible {c : Scan S} (h : scanner.LiveStack c) (hr : r ∈ scanner.tried)
    (he : r.eligible c.states) : scanner.Live r := by
  refine live_of_state hr fun s hs => ?_
  rcases Rule.eligible_iff.1 he with hfree | htop
  · cases hfree.symm.trans hs
  · exact h s (List.mem_of_head? (htop.symm.trans hs))

/-- So the rule that is chosen is live. -/
theorem LiveStack.live_of_choice? {c : Scan S} {role : Role} {n : Nat} (h : scanner.LiveStack c)
    (hchoice : c.choice? scanner = some (role, r, n)) : scanner.Live r := by
  obtain ⟨earlier, later, htried, ⟨he, -⟩, -⟩ := Scan.exists_tried_of_choice? hchoice
  refine h.live_of_eligible ?_ he
  rw [htried]
  exact List.mem_append_right _ List.mem_cons_self

/-- One step: the rule that fires is live, and what it leaves of the stack has been there before. -/
theorem invariant_liveStack (scanner : Scanner S) : scanner.Invariant scanner.LiveStack where
  start _ := List.forall_mem_nil _
  fired {c d role r n} h hstep := by
    obtain ⟨-, hchoice, hfire⟩ := Scan.step_eq_fired_iff.1 hstep
    obtain ⟨states, hstates, rfl⟩ := Scan.fire_eq_ok hfire
    intro s hs
    rcases StackUse.mem_of_transition? hstates hs with hpush | hbelow
    · exact ⟨r, h.live_of_choice? hchoice, hpush⟩
    · exact h s hbelow

/-- The scanner without its dead rules. -/
def pruned (scanner : Scanner S) : Scanner S :=
  { rules := Rule.enabled scanner.liveStates scanner.rules
    ignored := Rule.enabled scanner.liveStates scanner.ignored }

theorem mem_rules_pruned_iff :
    r ∈ scanner.pruned.rules ↔ r ∈ scanner.rules ∧ scanner.Live r := by
  rw [pruned, Rule.mem_enabled_iff, live_iff, tried, List.mem_append]
  exact ⟨fun h => ⟨h.1, .inr h.1, h.2⟩, fun h => ⟨h.1, h.2.2⟩⟩

theorem mem_ignored_pruned_iff :
    r ∈ scanner.pruned.ignored ↔ r ∈ scanner.ignored ∧ scanner.Live r := by
  rw [pruned, Rule.mem_enabled_iff, live_iff, tried, List.mem_append]
  exact ⟨fun h => ⟨h.1, .inl h.1, h.2⟩, fun h => ⟨h.1, h.2.2⟩⟩

/-- Where all states on the stack are those of live rules, dead rules do not matter. -/
theorem LiveStack.choice?_pruned {c : Scan S} (h : scanner.LiveStack c) :
    c.choice? scanner.pruned = c.choice? scanner := by
  have hkept : ∀ q ∈ scanner.tried, q.eligible c.states → q.enabledBy scanner.liveStates :=
    fun q hq he => (live_iff.1 (h.live_of_eligible hq he)).2
  refine Scan.choice?_congr ?_ ?_
  · exact Rule.firing?_filter (fun q hq => hkept q (List.mem_append_right _ hq)) ..
  · exact Rule.firing?_filter (fun q hq => hkept q (List.mem_append_left _ hq)) ..

theorem stepsAlikeWhere_pruned (scanner : Scanner S) :
    scanner.StepsAlikeWhere scanner.LiveStack (fun _ => False) scanner.pruned where
  invariant := scanner.invariant_liveStack
  step_or _ hc := .inl (Scan.step_eq_of_choice?_eq hc.choice?_pruned).symm

/-- **Dead rules never matter**: wherever a session has come to on any text, each state on its stack
is one that a live rule puts on, and each rule that is chosen is live. If exactly the rules that are
not live are left out, all requests and all runs come to the same. -/
theorem live_underway (scanner : Scanner S) :
    (∀ (input : String) (s : Session S), scanner.Underway input s →
      (∀ q ∈ s.scan.states, ∃ r, scanner.Live r ∧ q ∈ r.push) ∧
      ∀ role r n, s.scan.choice? scanner = some (role, r, n) → scanner.Live r) ∧
    (∀ r, (r ∈ scanner.pruned.rules ↔ r ∈ scanner.rules ∧ scanner.Live r) ∧
      (r ∈ scanner.pruned.ignored ↔ r ∈ scanner.ignored ∧ scanner.Live r)) ∧
    scanner.Interchangeable scanner.pruned ∧
    ∀ input : String, (scanner.pruned.lex input).answer.run =
      (scanner.lex input).answer.run.under scanner.pruned := by
  have halike := scanner.stepsAlikeWhere_pruned
  refine ⟨?_, fun r => ⟨mem_rules_pruned_iff, mem_ignored_pruned_iff⟩, halike.interchangeable, ?_⟩
  · intro input s hunderway
    have hstack : scanner.LiveStack s.scan := hunderway.invariant scanner.invariant_liveStack
    exact ⟨hstack, fun role r n hchoice => hstack.live_of_choice? hchoice⟩
  · intro input
    have hrun := Session.run_under_or (s := (scanner.lex input).answer) halike
      (halike.invariant.start input.toList)
    exact hrun.resolve_right fun ⟨_, _, hparts⟩ => hparts

/-- Words in brackets, where a closing bracket uncovers a state that has been put on before. Two
rules and an ignored one only enable one another. -/
def yard : Scanner String :=
  (Builder.empty.addRuleSet
    { rules := [{ name := "OPEN", pattern := "[(]", push := ["outside", "inside"] },
        { name := "CLOSE", pattern := "[)]", state := some "inside", pop := true },
        { name := "COMMA", pattern := ",", state := some "outside", pop := true },
        { name := "DIG", pattern := "[a-z]+", state := some "deep", push := ["deeper"] },
        { name := "WORD", pattern := "[a-z]+" },
        { name := "RISE", pattern := "[)]", state := some "deeper", push := ["inside", "deep"] }]
      ignored := [{ pattern := "[ ,]+", state := some "deep", push := ["deeper"] },
        { pattern := " +" }] }).after.scanner

/-- A word in brackets and a comma behind them, and the place between the two. -/
theorem live_underway_yard :
    let s := ((yard.lex "( a), b").answer.serveAll [.next, .item, .next]).after
    let o := (yard.lex "( a), b").answer.serveAll [.next, .item, .next, .next, .item]
    let o' := (yard.pruned.lex "( a), b").answer.serveAll [.next, .item, .next, .next, .item]
    yard.Underway "( a), b" s ∧ s.scan.states = ["outside"] ∧
      (∃ r, yard.Live r ∧ "outside" ∈ r.push) ∧
      (∃ r n, s.scan.choice? yard = some (.token, r, n) ∧ r.name = "COMMA" ∧ yard.Live r) ∧
      yard.pruned.rules.map (·.name) = ["OPEN", "CLOSE", "COMMA", "WORD"] ∧
      yard.pruned.ignored.map (·.pattern.text) = [" +"] ∧
      o'.answer = o.answer ∧ o'.after.scan = o.after.scan ∧
      o.answer.filterMap (fun reply => reply.token?.map (·.name)) =
        ["OPEN", "WORD", "CLOSE", "COMMA", "WORD"] := by
  intro s o o'
  obtain ⟨hlive, -, hsame, -⟩ := live_underway yard
  have hunderway : yard.Underway "( a), b" s := .serveAll .lex [.next, .item, .next]
  obtain ⟨hstack, hchosen⟩ := hlive _ _ hunderway
  have hstates : s.scan.states = ["outside"] := by decide +kernel
  have hcomma : (s.scan.choice? yard).map (fun x => (x.1, x.2.1.name)) =
      some (.token, "COMMA") := by decide +kernel
  obtain ⟨⟨role, r, n⟩, hchoice, hname⟩ := Option.map_eq_some_iff.1 hcomma
  obtain ⟨rfl, hname⟩ := Prod.mk.inj hname
  have ho : o' = o.under yard.pruned := hsame _ _
  refine ⟨hunderway, hstates, hstack "outside" (by rw [hstates]; exact List.mem_singleton_self _),
    ⟨r, n, hchoice, hname, hchosen _ r n hchoice⟩, by decide +kernel, by decide +kernel, ?_, ?_,
    by decide +kernel⟩
  · rw [ho, Outcome.under_answer]
  · rw [ho, Outcome.under_after, Session.under_scan]

end Scanner

end ScanRules
