import ScanRules.Proofs.Session.Interchange

/-!
# Further rules behind the others

Declaration order alone decides, so a rule that is added at the end gets its turn only where no other
rule would match: where the scan has failed without it.

- `Scanner.extended`: the scanner with further token rules.
- `Scanner.stepsAlike_extended`: it takes the same steps until no rule of the other matches.
- `Session.nexts_under_of_le`: so the calls of a run come to the same until it ends.
- `Session.nexts_tokens`, `Session.stopped_of_failure_nexts`: what calls have to do with the run.
- `Scan.Resumes`: what can become of a place where none of the other rules matches.
- `Scanner.run_lex_extended`: whole runs of both.
-/

namespace ScanRules

variable {S : Type}

/-- The scanner with further token rules, which come last. -/
def Scanner.extended (scanner : Scanner S) (more : List (Rule S)) : Scanner S :=
  { scanner with rules := scanner.rules ++ more }

variable [DecidableEq S]

/-- What a call comes to that stands at a place where only further rules can match: they do not match
either, or the first of them that does makes a token that starts here, or it takes a state from an
empty stack. -/
inductive Scan.Resumes (more : List (Rule S)) (c : Scan S) :
    Except Error (Option Token) → Scan S → Prop
  | noMatch : c.firing? more = none → Resumes more c (.error (.noMatch c.position)) c
  | found {r : Rule S} {n : Nat} {d : Scan S} : r ∈ more → c.firing? more = some (r, n) →
    c.fire r n = .ok d → Resumes more c (.ok (some (c.tokenOf r n))) d
  | underflow {r : Rule S} {n : Nat} : r ∈ more → c.firing? more = some (r, n) →
    r.pop = true → c.states = [] → Resumes more c (.error (.underflow r.name c.position)) c

variable {scanner other : Scanner S} {more : List (Rule S)}

/-! ## Steps -/

theorem Scan.choice?_extended (scanner : Scanner S) (more : List (Rule S)) (c : Scan S) :
    c.choice? (scanner.extended more) =
      (c.choice? scanner).or ((c.firing? more).map (.token, ·)) := by
  have hrules : c.firing? (scanner.extended more).rules =
      (c.firing? scanner.rules).or (c.firing? more) := firing?_append scanner.rules more c
  have hignored : c.firing? (scanner.extended more).ignored = c.firing? scanner.ignored := rfl
  rw [choice?, choice?, hignored, hrules]
  cases c.firing? scanner.ignored with
  | some found => rfl
  | none => cases c.firing? scanner.rules <;> rfl

/-- One step: if a rule is chosen, it is chosen with further rules as well. -/
theorem Scanner.stepsAlike_extended (scanner : Scanner S) (more : List (Rule S)) :
    scanner.StepsAlike (fun e => ∃ p, e = .noMatch p) (scanner.extended more) := by
  intro c
  by_cases hnil : c.ahead = []
  · refine .inl ?_
    rw [Scan.step_eq_ended_iff.2 hnil, Scan.step_eq_ended_iff.2 hnil]
  · cases hchoice : c.choice? scanner with
    | some found =>
      refine .inl (Scan.step_eq_of_choice?_eq ?_)
      rw [Scan.choice?_extended, hchoice, Option.some_or]
    | none => exact .inr ⟨_, Scan.step_eq_failed_iff.2 ⟨hnil, .inl ⟨hchoice, rfl⟩⟩, _, rfl⟩

/-! ## Where no other rule matches -/

/-- To skip fails only because of a rule that takes a state from an empty stack. -/
theorem Scan.exists_underflow_of_skip {ignored : List (Rule S)} {c : Scan S} {e : Error}
    (h : (c.skip ignored).answer = .error e) : ∃ name p, e = .underflow name p := by
  fun_induction skip ignored c with
  | case1 | case2 => cases h
  | case3 c _ r n _ e' he =>
    obtain rfl := Except.error.inj h
    exact ⟨_, _, (fire_eq_error he).2⟩
  | case4 c _ r n _ d _ ih => exact ih h

theorem Scan.token_of_skip_ok {c : Scan S} (h : (c.skip scanner.ignored).answer = .ok ()) :
    c.token scanner =
      (here scanner.rules (c.skip scanner.ignored).after).afterEvents
        (c.skip scanner.ignored).events := by
  simp only [token, h]

theorem Scan.here_noMatch {rules : List (Rule S)} {c : Scan S} {p : Position}
    (h : (here rules c).answer = .error (.noMatch p)) :
    (c.ahead ≠ [] ∧ c.firing? rules = none) ∧ (here rules c).after = c ∧ c.position = p := by
  unfold here at h ⊢
  split at h
  · cases h
  · next hne =>
    rw [if_neg hne]
    split at h
    · next hnone =>
      obtain rfl := Error.noMatch.inj (Except.error.inj h)
      exact ⟨⟨hne, hnone⟩, rfl, rfl⟩
    · split at h
      · next he =>
        obtain ⟨-, rfl⟩ := fire_eq_error he
        cases h
      · cases h

/-- Where no rule matches, further rules get their turn. -/
theorem Scan.resumes_here {rules : List (Rule S)} {c : Scan S} (hne : c.ahead ≠ [])
    (hnone : c.firing? rules = none) (more : List (Rule S)) :
    c.Resumes more (here (rules ++ more) c).answer (here (rules ++ more) c).after := by
  have hfiring : c.firing? (rules ++ more) = c.firing? more := by
    rw [firing?_append, hnone, Option.none_or]
  unfold here
  rw [if_neg hne, hfiring]
  cases hmore : c.firing? more with
  | none => exact .noMatch hmore
  | some found =>
    obtain ⟨r, n⟩ := found
    have hmem : r ∈ more := Rule.mem_of_firing? hmore
    cases hfire : c.fire r n with
    | ok d =>
      simp only [hfire]
      exact .found hmem hmore hfire
    | error e =>
      obtain ⟨hstates, rfl⟩ := fire_eq_error hfire
      obtain ⟨hpop, hempty⟩ := (r.transition?_eq_none_iff _).1 hstates
      simp only [hfire]
      exact .underflow hmem hmore hpop hempty

/-- A search that finds no rule to match passes over the same text with further rules, and they get
their turn where it has failed. -/
theorem Scan.resumes_token {c : Scan S} {p : Position}
    (h : (c.token scanner).answer = .error (.noMatch p)) (more : List (Rule S)) :
    (c.skip scanner.ignored).after = (c.token scanner).after ∧
      (c.token scanner).after.position = p ∧
      (c.token scanner).after.Resumes more (c.token (scanner.extended more)).answer
        (c.token (scanner.extended more)).after := by
  cases hskip : (c.skip scanner.ignored).answer with
  | error e =>
    obtain ⟨name, q, rfl⟩ := exists_underflow_of_skip hskip
    simp only [token, hskip] at h
    cases h
  | ok =>
    have hskip' : (c.skip (scanner.extended more).ignored).answer = .ok () := hskip
    rw [token_of_skip_ok hskip] at h ⊢
    rw [token_of_skip_ok hskip']
    obtain ⟨⟨hne, hnone⟩, hafter, hp⟩ := here_noMatch h
    simp only [Outcome.afterEvents_answer, Outcome.afterEvents_after, hafter]
    exact ⟨trivial, hp, resumes_here hne hnone more⟩

/-! ## Calls and runs -/

namespace Session

variable {parting : Error → Prop} {input : String} {s : Session S} {e : Error}

/-- As long as there are tokens left in the run, calls come to the same. -/
theorem nexts_under_of_le {n : Nat} :
    ∀ {s : Session S}, s.scanner.StepsAlike parting other → n ≤ s.run.answer.tokens.length →
      (s.under other).nexts n = (s.nexts n).under other := by
  induction n with
  | zero => exact fun _ _ => rfl
  | succ n ih =>
    intro s hsteps hle
    match ha : s.next.answer with
    | .error e =>
      rw [run_of_answer_error ha] at hle
      cases hle
    | .ok none =>
      rw [run_of_answer_none ha] at hle
      cases hle
    | .ok (some t) =>
      rw [run_of_answer_some ha] at hle
      obtain hsame | ⟨e, he, -⟩ := next_under_or hsteps.everywhere True.intro
      · have hafter : (s.under other).next.after = s.next.after.under other :=
          congrArg Outcome.after hsame
        have hrest := ih ((next_scanner s).symm ▸ hsteps) (Nat.le_of_succ_le_succ hle)
        rw [nexts_succ, nexts_succ, hafter, hrest, hsame]
        rfl
      · cases ha.symm.trans he

/-- A session that has not failed answers with the tokens of its run first. Then it still has not
failed, and the next call ends the run. -/
theorem nexts_tokens {n : Nat} :
    ∀ {s : Session S}, s.failure = none → s.run.answer.tokens.length = n →
      (s.nexts n).answer.map (·.1) = s.run.answer.tokens.map (fun t => .ok (some t.1)) ∧
      (s.nexts n).after.failure = none ∧
      failureOf (s.nexts n).after.next.answer = s.run.answer.stopped ∧
      (s.nexts n).after.next.after = s.run.after := by
  induction n with
  | zero =>
    intro s hf hn
    have hstart : (s.nexts 0).after = s := rfl
    match ha : s.next.answer with
    | .error e =>
      rw [run_of_answer_error ha, hstart]
      exact ⟨rfl, hf, rfl, rfl⟩
    | .ok none =>
      rw [run_of_answer_none ha, hstart]
      exact ⟨rfl, hf, rfl, rfl⟩
    | .ok (some t) =>
      rw [run_of_answer_some ha] at hn
      cases hn
  | succ n ih =>
    intro s hf hn
    match ha : s.next.answer with
    | .error e =>
      rw [run_of_answer_error ha] at hn
      cases hn
    | .ok none =>
      rw [run_of_answer_none ha] at hn
      cases hn
    | .ok (some t) =>
      have hf' : s.next.after.failure = none := by
        rw [Option.eq_none_iff_forall_ne_some]
        intro e he
        cases ha.symm.trans (failure_next_iff.1 he)
      rw [run_of_answer_some ha] at hn ⊢
      obtain ⟨hanswer, hrest⟩ := ih hf' (Nat.succ.inj hn)
      rw [nexts_succ, ha]
      exact ⟨congrArg (_ :: ·) hanswer, hrest⟩

/-- If calls have failed a session, its run ends with this failure. -/
theorem stopped_of_failure_nexts {n : Nat} :
    ∀ {s : Session S}, (s.nexts n).after.failure = some e → s.run.answer.stopped = some e := by
  induction n with
  | zero =>
    intro s hf
    have hf : s.failure = some e := hf
    rw [run_of_error (next_of_failure hf)]
  | succ n ih =>
    intro s hf
    have hf : (s.next.after.nexts n).after.failure = some e := hf
    match ha : s.next.answer with
    | .error e' =>
      rw [nexts_of_failure (failure_next_iff.2 ha), failure_next_iff.2 ha] at hf
      rw [run_of_answer_error ha]
      exact hf
    | .ok none =>
      obtain ⟨hnone, hnil⟩ := next_none ha
      rw [after_nexts_of_ahead_nil hnone hnil, hnone] at hf
      cases hf
    | .ok (some t) =>
      rw [run_of_answer_some ha]
      exact ih hf

/-- Whatever a session is asked for, it replies with no error but the one that ends its run. -/
theorem Sound.stopped_of_error_mem (h : s.Sound input) {requests : List Request} {reply : Reply}
    (hreply : reply ∈ (s.serveAll requests).answer) (he : reply.error? = some e) :
    s.run.answer.stopped = some e := by
  have hfailure := (failure_serveAll_iff requests s).2 (.inr ⟨reply, hreply, he⟩)
  rw [h.after_serveAll requests] at hfailure
  exact stopped_of_failure_nexts hfailure

end Session

/-- **More rules at the end change nothing but errors**: if the run of a scanner ends with the end of
the text or takes a state from an empty stack, then with further token rules the run is the same, and
so is all that a session replies. If it ends at a position where no rule matches, then with further
rules the calls come to the same for as long as the run has tokens; the next call passes over ignored
text to that very position, with the stack that the run has there; and there it fails in the same
way, or it makes a token with one of the further rules, or one of them takes a state from an empty
stack. -/
theorem Scanner.run_lex_extended (scanner : Scanner S) (more : List (Rule S)) (input : String) :
    let wider := scanner.extended more
    let s := (scanner.lex input).answer
    let s' := (wider.lex input).answer
    (s.run.answer.stopped = none ∨
        (∃ name p, s.run.answer.stopped = some (.underflow name p)) →
      s'.run = s.run.under wider ∧
        ∀ requests, s'.serveAll requests = (s.serveAll requests).under wider) ∧
    ∀ p, s.run.answer.stopped = some (.noMatch p) →
      let k := s.run.answer.tokens.length
      let last := s.run.after.scan
      (∀ n ≤ k, s'.nexts n = (s.nexts n).under wider) ∧
      (s'.nexts k).answer.map (·.1) = s.run.answer.tokens.map (fun t => .ok (some t.1)) ∧
      ((s'.nexts k).after.scan.skip wider.ignored).after = last ∧ last.position = p ∧
      last.Resumes more (s'.nexts k).after.next.answer (s'.nexts k).after.next.after.scan := by
  intro wider s s'
  have halike : s.scanner.StepsAlike (fun e => ∃ p, e = .noMatch p) wider :=
    scanner.stepsAlike_extended more
  constructor
  · intro hstopped
    have hmatches : ∀ p, s.run.answer.stopped ≠ some (.noMatch p) := by
      intro p hp
      rw [hp] at hstopped
      obtain hnone | ⟨name, q, hq⟩ := hstopped
      · cases hnone
      · cases hq
    refine ⟨(Session.run_under_or halike.everywhere True.intro).resolve_right ?_, fun requests =>
      (Session.serveAll_under_or requests halike.everywhere True.intro).resolve_right ?_⟩
    · rintro ⟨_, hp, p, rfl⟩
      exact hmatches p hp
    · rintro ⟨reply, hreply, _, he, p, rfl⟩
      exact hmatches p ((Session.sound_lex scanner input).stopped_of_error_mem hreply he)
  · intro p hp k last
    have hcalls : ∀ n ≤ k, s'.nexts n = (s.nexts n).under wider :=
      fun n hn => Session.nexts_under_of_le halike hn
    obtain ⟨htokens, hf, hends, hlast⟩ := Session.nexts_tokens (s := s) rfl (n := k) rfl
    have hscanner : (s.nexts k).after.scanner = scanner := Session.nexts_scanner k s
    -- the call behind the tokens searches where no rule matches
    rw [hp, Session.failureOf_eq_some_iff] at hends
    rw [Session.next_of_search hf] at hends hlast
    have hscan : last = ((s.nexts k).after.scan.token scanner).after := by
      rw [show last = s.run.after.scan from rfl, ← hlast, hscanner]
    obtain ⟨hskip, hposition, hresumes⟩ := Scan.resumes_token (hscanner ▸ hends) more
    have hf' : ((s.nexts k).after.under wider).failure = none := hf
    rw [hcalls k (Nat.le_refl k)]
    refine ⟨hcalls, htokens, hskip.trans hscan.symm, hscan ▸ hposition, ?_⟩
    show last.Resumes more ((s.nexts k).after.under wider).next.answer
      ((s.nexts k).after.under wider).next.after.scan
    rw [Session.next_of_search hf', hscan]
    exact hresumes

/-- Words and closing brackets, where opening brackets and blanks are ignored. -/
def Scanner.lists : Scanner String :=
  (Builder.empty.addRuleSet
    { rules := [{ name := "WORD", pattern := "[a-z]+" },
        { name := "CLOSE", pattern := "[)]", pop := true }]
      ignored := [{ pattern := " +" }, { pattern := "[(]", push := ["inside"] }] }).after.scanner

/-- A rule for numbers. -/
def Scanner.digits : List (Rule String) :=
  (Builder.empty.addRuleSet { rules := [{ name := "NUMBER", pattern := "[0-9]+" }] }).after.rules

/-- A bracket too many is one for the scanner with numbers as well. A number in brackets, which ends
the run without them, is the next token with them. -/
theorem Scanner.run_lex_extended_digits :
    let wider := lists.extended digits
    let s := (lists.lex "a (b))").answer
    let t := (lists.lex "a (7 b").answer
    let t' := (wider.lex "a (7 b").answer
    s.run.answer.stopped = some (.underflow "CLOSE" ⟨5, 1, 6⟩) ∧
      (wider.lex "a (b))").answer.run = s.run.under wider ∧
      t.run.answer = ⟨[(⟨"WORD", "a", ⟨0, 1, 1⟩⟩, [])], some (.noMatch ⟨3, 1, 4⟩)⟩ ∧
      t'.nexts 1 = (t.nexts 1).under wider ∧
      ((t'.nexts 1).after.scan.skip wider.ignored).after = t.run.after.scan ∧
      t.run.after.scan.states = ["inside"] ∧
      t.run.after.scan.Resumes digits (t'.nexts 1).after.next.answer
        (t'.nexts 1).after.next.after.scan ∧
      (t'.nexts 1).after.next.answer = .ok (some ⟨"NUMBER", "7", ⟨3, 1, 4⟩⟩) := by
  intro wider s t t'
  have hunderflow : s.run.answer.stopped = some (.underflow "CLOSE" ⟨5, 1, 6⟩) := by decide +kernel
  have htokens : t.run.answer.tokens = [(⟨"WORD", "a", ⟨0, 1, 1⟩⟩, [])] := by decide +kernel
  have hnoMatch : t.run.answer.stopped = some (.noMatch ⟨3, 1, 4⟩) := by decide +kernel
  obtain ⟨hrun, -⟩ := (run_lex_extended lists digits "a (b))").1 (.inr ⟨_, _, hunderflow⟩)
  obtain ⟨hcalls, -, hskip, -, hresumes⟩ :=
    (run_lex_extended lists digits "a (7 b").2 ⟨3, 1, 4⟩ hnoMatch
  have hk : t.run.answer.tokens.length = 1 := congrArg List.length htokens
  rw [show (lists.lex "a (7 b").answer = t from rfl, hk] at hskip hresumes
  refine ⟨hunderflow, hrun, ?_, hcalls 1 hk.ge, hskip, by decide +kernel, hresumes,
    by decide +kernel⟩
  rw [← htokens, ← hnoMatch]

end ScanRules
