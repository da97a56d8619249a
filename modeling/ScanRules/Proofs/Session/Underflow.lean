import ScanRules.Proofs.Session.Anew
import ScanRules.Proofs.Session.Shadows

/-!
# Stacks that never run empty

Whether a scanner can take a state from an empty stack depends on the text, but the rules alone may
rule it out. A rule that needs a state finds one on the stack when it pops, and a rule in the shadow
of one that does not pop never comes to pop at all.

- `Scanner.GuardedAt`, `Scanner.Guarded`: the check of one rule, and of all of them.
- `Scanner.Guarded.step_ne_underflow`: no step of a scanner that passes it fails with an underflow.
- `Scanner.Underway.step_of_error_mem`, `Scan.Course.step_of_stopped`: the errors of replies and of
  runs are those of single steps.
- `Scanner.Guarded.ne_underflow_lex`: no session of such a scanner ever reports an underflow.
-/

namespace ScanRules

variable {S : Type}

namespace Scanner

/-- The rule with this number, counted in the order in which rules are tried, does not pop, or it
needs a state, or an earlier rule with the same pattern needs no state and does not pop. -/
def GuardedAt (scanner : Scanner S) (i : Nat) : Prop :=
  ∀ r ∈ scanner.tried[i]?, r.pop = true → r.state ≠ none ∨
    ∃ j < i, ∃ q ∈ scanner.tried[j]?, (q.pattern.text = r.pattern.text ∧
      q.pattern.flags = r.pattern.flags) ∧ q.pop = false ∧ q.state = none

/-- All rules of the scanner pass this check. -/
def Guarded (scanner : Scanner S) : Prop :=
  ∀ i < scanner.tried.length, scanner.GuardedAt i

instance [DecidableEq S] (scanner : Scanner S) (i : Nat) : Decidable (scanner.GuardedAt i) :=
  inferInstanceAs (Decidable (∀ r ∈ scanner.tried[i]?, _ → _ ∨ ∃ j < i, _))

instance [DecidableEq S] (scanner : Scanner S) : Decidable scanner.Guarded :=
  inferInstanceAs (Decidable (∀ i < _, _))

/-- A rule that passes the check, pops and needs no state is in the shadow of an earlier one. -/
theorem GuardedAt.shadowed {scanner : Scanner S} {i : Nat} {r : Rule S}
    (h : scanner.GuardedAt i) (hr : scanner.tried[i]? = some r) (hpop : r.pop = true)
    (hstate : r.state = none) : scanner.Shadowed i := by
  rcases h r hr hpop with hneeds | ⟨j, hj, q, hq, ⟨htext, hflags⟩, -, hfree⟩
  · exact absurd hstate hneeds
  · exact ⟨j, hj, q, hq, r, hr, htext, hflags, .inl hfree⟩

end Scanner

variable [DecidableEq S] {scanner : Scanner S}

/-- On an empty stack only rules are chosen that need no state. -/
theorem Rule.state_eq_none_of_eligible_nil {r : Rule S} (h : r.eligible []) : r.state = none := by
  rcases eligible_iff.1 h with hfree | htop
  · exact hfree
  · exact htop

namespace Scanner.Guarded

/-- The rule that is chosen at a place does not take a state from an empty stack. -/
theorem transition?_ne_none (h : scanner.Guarded) {c : Scan S} {role : Role} {r : Rule S} {n : Nat}
    (hchoice : c.choice? scanner = some (role, r, n)) : r.transition? c.states ≠ none := by
  intro hnone
  obtain ⟨hpop, hempty⟩ := (r.transition?_eq_none_iff c.states).1 hnone
  obtain ⟨earlier, later, htried, ⟨he, hn⟩, hearlier⟩ := Scan.exists_tried_of_choice? hchoice
  have hr : scanner.tried[earlier.length]? = some r := getElem?_tried htried
  have hlt : earlier.length < scanner.tried.length := (List.getElem?_eq_some_iff.1 hr).1
  have hstate : r.state = none := Rule.state_eq_none_of_eligible_nil (hempty ▸ he)
  -- so the rule would be in the shadow of one that comes before it, and not be chosen
  have hshadowed : scanner.Shadowed earlier.length := (h _ hlt).shadowed hr hpop hstate
  rw [Shadowed, htried] at hshadowed
  exact Rule.not_shadowedIn_of_first hearlier he hn hshadowed

/-- Whatever place a scan has come to, its next step does not underflow. -/
theorem step_ne_underflow (h : scanner.Guarded) (c : Scan S) (name : String) (p : Position) :
    c.step scanner ≠ .failed (.underflow name p) := by
  intro hstep
  obtain ⟨-, ⟨-, he⟩ | ⟨role, r, n, hchoice, hfire⟩⟩ := Scan.step_eq_failed_iff.1 hstep
  · cases he
  · exact h.transition?_ne_none hchoice (Scan.fire_eq_error hfire).1

end Scanner.Guarded

/-! ## Where errors come from -/

/-- An error among the replies to requests is the failure of the step at the place where the session
stands after all of them. -/
theorem Scanner.Underway.step_of_error_mem {input : String} {s : Session S}
    (h : scanner.Underway input s) {requests : List Request} {reply : Reply} {e : Error}
    (hreply : reply ∈ (s.serveAll requests).answer) (he : reply.error? = some e) :
    (s.serveAll requests).after.scan.step scanner = .failed e := by
  have hunderway := h.serveAll requests
  have hfailure : (s.serveAll requests).after.failure = some e :=
    (Session.failure_serveAll_iff requests s).2 (.inr ⟨reply, hreply, he⟩)
  have hstep := hunderway.standing e hfailure
  rwa [hunderway.scanner_eq] at hstep

/-- The error that ends a course is the failure of its last step. -/
theorem Scan.Course.step_of_stopped {c last : Scan S} {fired : List (Fired S)} {e : Error}
    (h : Course scanner c fired last (some e)) : last.step scanner = .failed e :=
  h.exists_walk.2

/-- **Checked once, safe forever**: let each rule that pops need a state, or else stand behind a
rule with the same pattern and flags that does not pop and needs no state. Then no session over any
text ever reports that a state is taken from an empty stack, whatever it is asked for, and no run
ends with it. -/
theorem Scanner.Guarded.ne_underflow_lex (h : scanner.Guarded) (input : String) :
    (∀ requests, ∀ reply ∈ ((scanner.lex input).answer.serveAll requests).answer,
      ∀ name p, reply.error? ≠ some (.underflow name p)) ∧
    ∀ name p, (scanner.lex input).answer.run.answer.stopped ≠ some (.underflow name p) := by
  constructor
  · intro requests reply hreply name p he
    exact h.step_ne_underflow _ name p (Scanner.Underway.lex.step_of_error_mem hreply he)
  · intro name p hstopped
    obtain ⟨fired, last, stopped, hcourse⟩ := Scan.exists_course scanner (.start input.toList [])
    have hrun := Session.run_of_course hcourse (s := (scanner.lex input).answer) rfl rfl rfl
    rw [hrun.1] at hstopped
    obtain rfl : stopped = some (.underflow name p) := hstopped
    exact h.step_ne_underflow last name p hcourse.step_of_stopped

/-- Words in brackets. The last two rules would pop in any state, but one of them is in the shadow of
the rule for brackets too many, and the other in that of the ignored blanks. -/
def Scanner.stray : Scanner String :=
  (Builder.empty.addRuleSet
    { rules := [{ name := "WORD", pattern := "[a-z]+" },
        { name := "OPEN", pattern := "[(]", push := ["inside"] },
        { name := "CLOSE", pattern := "[)]", state := some "inside", pop := true },
        { name := "STRAY", pattern := "[)]" },
        { name := "LEAVE", pattern := "[)]", pop := true },
        { name := "GAP", pattern := " +", pop := true, push := ["outside"] }]
      ignored := [{ pattern := " +" }] }).after.scanner

/-- A bracket too many and the blank behind it are passed, and then no rule matches. -/
theorem Scanner.Guarded.ne_underflow_stray :
    let o := (stray.lex "(a)) ?").answer.serveAll [.next, .item, .next, .next, .item]
    let run := (stray.lex "(a)) ?").answer.run.answer
    stray.Guarded ∧
      o.answer.filterMap (fun reply => reply.token?.map (·.name)) =
        ["OPEN", "WORD", "CLOSE", "STRAY"] ∧
      o.answer.filterMap Reply.error? = [.noMatch ⟨5, 1, 6⟩] ∧
      (∀ reply ∈ o.answer, ∀ name p, reply.error? ≠ some (.underflow name p)) ∧
      ∀ name p, run.stopped ≠ some (.underflow name p) := by
  intro o run
  have hguarded : stray.Guarded := by decide +kernel
  obtain ⟨hreplies, hrun⟩ := hguarded.ne_underflow_lex "(a)) ?"
  exact ⟨hguarded, by decide +kernel, by decide +kernel,
    hreplies [.next, .item, .next, .next, .item], hrun⟩

end ScanRules
