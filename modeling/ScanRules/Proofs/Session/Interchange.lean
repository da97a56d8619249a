import ScanRules.Proofs.Session.Invariant
import ScanRules.Proofs.Session.Mixing

/-!
# Scanners that take the same steps

A scanner shows in what its sessions reply, and all of that comes from single steps. The same holds
of scanners that part only where one of them fails in a certain way: as long as it does not, they
come to the same.

- `Scanner.StepsAlike`: two scanners take the same steps, except where one fails with an error at
  which they may part.
- `Scanner.StepsAlikeWhere`: they do so wherever an invariant holds.
- `Scan.Search.eq_token_or`: until then, they find the same tokens.
- `Scan.choice?_congr`, `Scan.step_eq_of_choice?_eq`: they choose the same rules where the same rules
  fire, and take the same steps where they choose the same rules.
- `Session.under`: the session with another scanner.
- `Session.serveAll_under_or`, `Session.run_under_or`: until the scanners part, requests and runs
  come to the same with either.
- `Scanner.Interchangeable`: on every text and for all requests, two scanners come to the same.
- `Scanner.StepsAlikeWhere.interchangeable`, `Scanner.interchangeable_of_step_eq`: scanners that take
  the same steps are interchangeable.
-/

namespace ScanRules

variable {S : Type} [DecidableEq S] {scanner other : Scanner S} {parting : Error → Prop}
  {inv : Scan S → Prop}

/-- The other scanner takes the same steps, except where this one fails with an error at which the
two may part. -/
def Scanner.StepsAlike (parting : Error → Prop) (scanner other : Scanner S) : Prop :=
  ∀ c : Scan S, c.step scanner = c.step other ∨ ∃ e, c.step scanner = .failed e ∧ parting e

/-- The other scanner takes the same steps in this way as long as an invariant holds. -/
structure Scanner.StepsAlikeWhere (inv : Scan S → Prop) (parting : Error → Prop)
    (scanner other : Scanner S) : Prop where
  invariant : scanner.Invariant inv
  step_or (c : Scan S) : inv c →
    c.step scanner = c.step other ∨ ∃ e, c.step scanner = .failed e ∧ parting e

theorem Scanner.StepsAlike.everywhere (h : scanner.StepsAlike parting other) :
    scanner.StepsAlikeWhere (fun _ => True) parting other where
  invariant := .trivial scanner
  step_or c _ := h c

/-- Where the same rules fire of either list, the same rule is chosen. -/
theorem Scan.choice?_congr {c : Scan S} (hrules : c.firing? scanner.rules = c.firing? other.rules)
    (hignored : c.firing? scanner.ignored = c.firing? other.ignored) :
    c.choice? scanner = c.choice? other := by
  rw [choice?, choice?, hrules, hignored]

/-- Where two scanners choose the same rule, they take the same step. -/
theorem Scan.step_eq_of_choice?_eq {c : Scan S} (h : c.choice? scanner = c.choice? other) :
    c.step scanner = c.step other := by
  rw [step, step, h]

/-- A search of one scanner is what another one finds that takes the same steps, unless it fails with
an error at which the two may part. By induction on the steps: the invariant comes along, and only
the last step can be such a failure. -/
theorem Scan.Search.eq_token_or (halike : scanner.StepsAlikeWhere inv parting other) {c : Scan S}
    {o : Outcome S (Scan S) (Except Error (Option Token))} (h : Search scanner c o) (hc : inv c) :
    o = c.token other ∨ ∃ e, o.answer = .error e ∧ parting e := by
  induction h with
  | @ended c hstep =>
    obtain hsame | ⟨e, hfails, -⟩ := halike.step_or c hc
    · exact .inl (token_of_ended (hsame ▸ hstep)).symm
    · cases hstep.symm.trans hfails
  | @failed c e hstep =>
    obtain hsame | ⟨e', hfails, hparting⟩ := halike.step_or c hc
    · exact .inl (token_of_failed (hsame ▸ hstep)).symm
    · obtain rfl := Step.failed.inj (hstep.symm.trans hfails)
      exact .inr ⟨e, rfl, hparting⟩
  | @found c d r n hstep =>
    obtain hsame | ⟨e, hfails, -⟩ := halike.step_or c hc
    · exact .inl (token_of_token (hsame ▸ hstep)).symm
    · cases hstep.symm.trans hfails
  | @skipped c d r n o hstep _ ih =>
    obtain hsame | ⟨e, hfails, -⟩ := halike.step_or c hc
    · refine (ih (halike.invariant.fired hc hstep)).imp_left fun hrest => ?_
      rw [token_of_ignored (hsame ▸ hstep), hrest]
    · cases hstep.symm.trans hfails

omit [DecidableEq S] in
/-- The session with another scanner. -/
def Session.under (other : Scanner S) (s : Session S) : Session S := { s with scanner := other }

omit [DecidableEq S] in
/-- What a session has come to, with another scanner. -/
def Outcome.under {Answer : Type} (other : Scanner S) (o : Outcome S (Session S) Answer) :
    Outcome S (Session S) Answer :=
  { o with after := o.after.under other }

omit [DecidableEq S] in
@[simp] theorem Session.under_scan (other : Scanner S) (s : Session S) :
    (s.under other).scan = s.scan := rfl

omit [DecidableEq S] in
@[simp] theorem Outcome.under_answer {Answer : Type} (other : Scanner S)
    (o : Outcome S (Session S) Answer) : (o.under other).answer = o.answer := rfl

omit [DecidableEq S] in
@[simp] theorem Outcome.under_after {Answer : Type} (other : Scanner S)
    (o : Outcome S (Session S) Answer) : (o.under other).after = o.after.under other := rfl

omit [DecidableEq S] in
@[simp] theorem Outcome.under_events {Answer : Type} (other : Scanner S)
    (o : Outcome S (Session S) Answer) : (o.under other).events = o.events := rfl

/-- On every text, whatever a session is asked for, it comes to the same with either scanner. -/
def Scanner.Interchangeable (scanner other : Scanner S) : Prop :=
  ∀ (input : String) (requests : List Request),
    (other.lex input).answer.serveAll requests =
      ((scanner.lex input).answer.serveAll requests).under other

namespace Session

variable {s : Session S}

/-- A call comes to the same with either scanner, unless the two may part at its error. -/
theorem next_under_or (halike : s.scanner.StepsAlikeWhere inv parting other) (hs : inv s.scan) :
    (s.under other).next = s.next.under other ∨ ∃ e, s.next.answer = .error e ∧ parting e := by
  have hscanner : (s.under other).scanner = other := rfl
  have hscan : (s.under other).scan = s.scan := rfl
  cases hf : s.failure with
  | some e =>
    have hf' : (s.under other).failure = some e := hf
    rw [next_of_failure hf, next_of_failure hf']
    exact .inl rfl
  | none =>
    have hf' : (s.under other).failure = none := hf
    obtain htoken | ⟨e, he, hparting⟩ :=
      (Scan.search_token s.scanner s.scan).eq_token_or halike hs
    · rw [next_of_search hf, next_of_search hf', hscanner, hscan, ← htoken]
      exact .inl rfl
    · rw [next_of_error hf he]
      exact .inr ⟨e, rfl, hparting⟩

/-- A request comes to the same if a call does. -/
theorem serve_under (hnext : (s.under other).next = s.next.under other) (request : Request) :
    (s.under other).serve request = (s.serve request).under other := by
  cases request with
  | next =>
    rw [serve, serve, hnext]
    rfl
  | item =>
    rw [serve, serve]
    cases hs : s.finished with
    | true =>
      have hs' : (s.under other).finished = true := hs
      rw [item_of_finished hs, item_of_finished hs']
      rfl
    | false =>
      have hs' : (s.under other).finished = false := hs
      rw [item_of_not_finished hs, item_of_not_finished hs', hnext]
      rfl

/-- So a request comes to the same, unless the scanners may part at the error of its reply. -/
theorem serve_under_or (halike : s.scanner.StepsAlikeWhere inv parting other) (hs : inv s.scan)
    (request : Request) :
    (s.under other).serve request = (s.serve request).under other ∨
      ∃ e, (s.serve request).answer.error? = some e ∧ parting e := by
  obtain hnext | ⟨e, he, hparting⟩ := next_under_or halike hs
  · exact .inl (serve_under hnext request)
  · cases request with
    | next => exact .inr ⟨e, Reply.error?_next_eq_some_iff.2 he, hparting⟩
    | item =>
      cases hs : s.finished with
      | true =>
        -- no call is made any more, and so neither scanner matters
        have hs' : (s.under other).finished = true := hs
        refine .inl ?_
        rw [serve, serve, item_of_finished hs, item_of_finished hs']
        rfl
      | false =>
        refine .inr ⟨e, ?_, hparting⟩
        rw [serve, item_of_not_finished hs]
        exact Reply.error?_item_itemOf_iff.2 he

/-- So do any requests, unless the scanners may part at the error of one of the replies. -/
theorem serveAll_under_or (requests : List Request) :
    ∀ {s : Session S}, s.scanner.StepsAlikeWhere inv parting other → inv s.scan →
      (s.under other).serveAll requests = (s.serveAll requests).under other ∨
        ∃ reply ∈ (s.serveAll requests).answer, ∃ e, reply.error? = some e ∧ parting e := by
  induction requests with
  | nil => exact fun _ _ => .inl rfl
  | cons request requests ih =>
    intro s halike hs
    have hkeeps : (s.serve request).after.scanner = s.scanner := (keeps_serve request s).1
    obtain hserve | hparting := serve_under_or halike hs request
    · obtain hrest | ⟨reply, hreply, hparting⟩ :=
        ih (s := (s.serve request).after) (hkeeps ▸ halike) (halike.invariant.serve hs request)
      · exact .inl (by simp only [serveAll, hserve, Outcome.under, hrest])
      · exact .inr ⟨reply, List.mem_cons_of_mem _ hreply, hparting⟩
    · exact .inr ⟨_, List.mem_cons_self, hparting⟩

/-- A run comes to the same with either scanner, unless the two may part at the error that ends it.
By induction on the text ahead. -/
theorem run_under_or (halike : s.scanner.StepsAlikeWhere inv parting other) (hs : inv s.scan) :
    (s.under other).run = s.run.under other ∨
      ∃ e, s.run.answer.stopped = some e ∧ parting e := by
  induction hlen : s.scan.ahead.length using Nat.strongRecOn generalizing s with
  | _ len ih =>
    subst hlen
    obtain hsame | ⟨e, ha, hparting⟩ := next_under_or halike hs
    · match ha : s.next.answer with
      | .error e =>
        have ha' : (s.under other).next.answer = .error e := by rw [hsame]; exact ha
        rw [run_of_answer_error ha, run_of_answer_error ha', hsame]
        exact .inl rfl
      | .ok none =>
        have ha' : (s.under other).next.answer = .ok none := by rw [hsame]; exact ha
        rw [run_of_answer_none ha, run_of_answer_none ha', hsame]
        exact .inl rfl
      | .ok (some t) =>
        have ha' : (s.under other).next.answer = .ok (some t) := by rw [hsame]; exact ha
        have hafter : (s.under other).next.after = s.next.after.under other :=
          congrArg Outcome.after hsame
        have hrest := ih _ (length_ahead_next_lt ha) ((next_scanner s).symm ▸ halike)
          (halike.invariant.next hs) rfl
        rw [run_of_answer_some ha, run_of_answer_some ha', hafter, hsame]
        refine hrest.imp_left fun hrest => ?_
        rw [hrest]
        rfl
    · rw [run_of_answer_error ha]
      exact .inr ⟨e, rfl, hparting⟩

end Session

/-- Scanners that take the same steps as long as an invariant holds are interchangeable. -/
theorem Scanner.StepsAlikeWhere.interchangeable
    (halike : scanner.StepsAlikeWhere inv (fun _ => False) other) :
    scanner.Interchangeable other := by
  intro input requests
  refine (Session.serveAll_under_or (s := (scanner.lex input).answer) requests halike
    (halike.invariant.start input.toList)).resolve_right ?_
  rintro ⟨_, _, _, _, ⟨⟩⟩

/-- Scanners that take the same steps are interchangeable. -/
theorem Scanner.interchangeable_of_step_eq
    (hsteps : ∀ c : Scan S, c.step scanner = c.step other) : scanner.Interchangeable other := by
  have halike : scanner.StepsAlike (fun _ => False) other := fun c => .inl (hsteps c)
  exact halike.everywhere.interchangeable

end ScanRules
