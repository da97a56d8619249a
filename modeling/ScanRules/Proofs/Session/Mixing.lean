import ScanRules.Proofs.Session.Items

/-!
# Calls and items in any order

A session has two marks for its end, which the two kinds of requests set and heed each in its own
way. All the same, it does not matter which of them it is asked for: they share what the session
finds.

- `Session.Over`: the session has failed or come to the end of its text. It stays where it is then.
- `Session.mark`: the session with another mark of its items.
- `Session.Sound.after_serveAll`, `Session.Sound.map_token?_serveAll`: requests lead where as many
  calls lead, but for this mark, and find the same tokens.
- `Session.failure_serveAll_iff`, `Session.Sound.finished_serveAll`: what ends a session, by the
  replies.
- `Session.Mirrors`, `Scanner.mirrors_serveAll_lex`: what the replies have to do with those to calls
  alone.
-/

namespace ScanRules

/-- The item that shows what a call answers. -/
def itemOf : Except Error (Option Token) → Option (Except Error Token)
  | .ok found => found.map .ok
  | .error e => some (.error e)

namespace Reply

/-- Is this the last item of a sequence, or none? -/
def endsItems : Reply → Bool
  | item none | item (some (.error _)) => true
  | item (some (.ok _)) | next _ => false

/-- Is this an item that is an error? -/
def isFault : Reply → Bool
  | item (some (.error _)) => true
  | item none | item (some (.ok _)) | next _ => false

theorem error?_item_itemOf_iff {answer : Except Error (Option Token)} {e : Error} :
    (item (itemOf answer)).error? = some e ↔ answer = .error e := by
  match answer with
  | .ok none | .ok (some _) | .error _ => simp [itemOf, error?]

end Reply

variable {S : Type}

namespace Session

/-- The session has failed, or it is at the end of its text. -/
def Over (s : Session S) : Prop := s.failure ≠ none ∨ s.scan.ahead = []

/-- The session with another mark of its items. -/
def mark (ended : Bool) (s : Session S) : Session S := { s with finished := ended }

@[simp] theorem mark_scan (ended : Bool) (s : Session S) : (s.mark ended).scan = s.scan := rfl

@[simp] theorem mark_mark (ended ended' : Bool) (s : Session S) :
    (s.mark ended).mark ended' = s.mark ended' := rfl

@[simp] theorem mark_finished (s : Session S) : s.mark s.finished = s := rfl

variable [DecidableEq S] {input : String} {s : Session S} {e : Error}

/-! ## Calls -/

/-- A call does not heed the mark of the items, and leaves it as it is. -/
theorem next_mark (ended : Bool) (s : Session S) :
    (s.mark ended).next = ⟨s.next.answer, s.next.after.mark ended, s.next.events⟩ := by
  obtain ⟨scanner, input, scan, failure, finished⟩ := s
  cases failure with
  | some e => rfl
  | none => simp only [mark, next_of_search]

theorem after_nexts_mark (ended : Bool) (s : Session S) (n : Nat) :
    ((s.mark ended).nexts n).after = (s.nexts n).after.mark ended := by
  induction n generalizing s with
  | zero => rfl
  | succ n ih =>
    rw [nexts_succ, nexts_succ, next_mark]
    exact ih s.next.after

theorem answer_nexts_mark (ended : Bool) (s : Session S) (n : Nat) :
    ((s.mark ended).nexts n).answer = (s.nexts n).answer := by
  induction n generalizing s with
  | zero => rfl
  | succ n ih =>
    rw [nexts_succ, nexts_succ, next_mark]
    exact congrArg (_ :: ·) (ih s.next.after)

theorem finished_nexts (n : Nat) (s : Session S) : (s.nexts n).after.finished = s.finished := by
  induction n generalizing s with
  | zero => rfl
  | succ n ih => exact (ih s.next.after).trans (next_finished s)

theorem failure_next_iff : s.next.after.failure = some e ↔ s.next.answer = .error e := by
  cases hf : s.failure with
  | some e' =>
    rw [next_of_failure hf]
    simp [hf]
  | none =>
    rw [next_of_search hf]
    exact failureOf_eq_some_iff

/-- A session that is over stays as it is, and nothing more is found. -/
theorem Over.next_eq (h : s.Over) : s.next.after = s ∧ s.next.answer.toOption.join = none := by
  cases hf : s.failure with
  | some e =>
    rw [next_of_failure hf]
    exact ⟨rfl, rfl⟩
  | none =>
    have hnil : s.scan.ahead = [] := h.resolve_left fun hne => hne hf
    rw [next_of_ahead_nil hf hnil]
    exact ⟨rfl, rfl⟩

/-! ## Requests -/

/-- What an item comes to as long as none of them has been the last one. -/
theorem item_of_not_finished (hs : s.finished = false) :
    s.item = ⟨itemOf s.next.answer,
      s.next.after.mark (Reply.item (itemOf s.next.answer)).endsItems, s.next.events⟩ := by
  match ha : s.next.answer with
  | .ok (some t) =>
    have hkeeps : s.next.after.mark false = s.next.after := by
      rw [← hs, ← next_finished s, mark_finished]
    show _ = Outcome.mk _ (s.next.after.mark false) _
    rw [hkeeps, item_of_some hs ha]
    rfl
  | .ok none =>
    rw [item_of_none hs ha]
    rfl
  | .error e =>
    rw [item_of_error hs ha]
    rfl

/-- A request fails a session that has not failed where it replies with the error. -/
theorem failure_serve_iff (request : Request) (s : Session S) :
    (s.serve request).after.failure = some e ↔
      s.failure = some e ∨ (s.serve request).answer.error? = some e := by
  have hrepeats : s.failure = some e → s.next.answer = .error e := fun hf => by
    rw [next_of_failure hf]
  cases request with
  | next =>
    rw [serve, failure_next_iff, Reply.error?_next_eq_some_iff]
    exact ⟨.inr, fun hor => hor.elim hrepeats id⟩
  | item =>
    rw [serve]
    cases hs : s.finished with
    | true =>
      rw [item_of_finished hs]
      simp [Reply.error?]
    | false =>
      rw [item_of_not_finished hs, Reply.error?_item_itemOf_iff]
      show s.next.after.failure = some e ↔ _
      rw [failure_next_iff]
      exact ⟨.inr, fun hor => hor.elim hrepeats id⟩

/-- Requests fail a session that has not failed where one of the replies is the error. -/
theorem failure_serveAll_iff (requests : List Request) (s : Session S) :
    (s.serveAll requests).after.failure = some e ↔
      s.failure = some e ∨ ∃ reply ∈ (s.serveAll requests).answer, reply.error? = some e := by
  induction requests generalizing s with
  | nil => simp [serveAll]
  | cons request requests ih =>
    show ((s.serve request).after.serveAll requests).after.failure = some e ↔ _ ∨
      ∃ reply ∈ (s.serve request).answer :: ((s.serve request).after.serveAll requests).answer, _
    rw [ih, failure_serve_iff, List.exists_mem_cons_iff, or_assoc]

namespace Sound

/-- One request leads where a call leads, but for the mark of the items. -/
theorem after_serve (h : s.Sound input) (request : Request) :
    (s.serve request).after =
      s.next.after.mark (s.finished || (s.serve request).answer.endsItems) := by
  cases request with
  | next =>
    show s.next.after = s.next.after.mark (s.finished || false)
    rw [Bool.or_false, ← next_finished s, mark_finished]
  | item =>
    rw [Session.serve]
    cases hs : s.finished with
    | true =>
      -- no call is made, but a call would not have led anywhere either
      have hover : s.Over := h.of_finished hs
      rw [item_of_finished hs, hover.next_eq.1, Bool.true_or, ← hs, mark_finished]
    | false => rw [item_of_not_finished hs, Bool.false_or]

/-- What one request finds is what a call finds. -/
theorem token?_serve (h : s.Sound input) (request : Request) :
    (s.serve request).answer.token? = s.next.answer.toOption.join := by
  cases request with
  | next =>
    show (Reply.next s.next.answer).token? = _
    cases s.next.answer <;> rfl
  | item =>
    rw [Session.serve]
    cases hs : s.finished with
    | true =>
      have hover : s.Over := h.of_finished hs
      rw [item_of_finished hs, hover.next_eq.2]
      rfl
    | false =>
      rw [item_of_not_finished hs]
      cases s.next.answer with
      | error e => rfl
      | ok found => cases found <;> rfl

/-- Requests lead where as many calls lead, but for the mark of the items, which is set by the last
of them. -/
theorem after_serveAll (h : s.Sound input) (requests : List Request) :
    (s.serveAll requests).after =
      (s.nexts requests.length).after.mark
        (s.finished || (s.serveAll requests).answer.any Reply.endsItems) := by
  induction requests generalizing s with
  | nil =>
    show s = s.mark (s.finished || false)
    rw [Bool.or_false, mark_finished]
  | cons request requests ih =>
    have hmark : (s.serve request).after.finished =
        (s.finished || (s.serve request).answer.endsItems) :=
      congrArg finished (h.after_serve request)
    have hnexts : ((s.serve request).after.nexts requests.length).after =
        (s.next.after.nexts requests.length).after.mark
          (s.finished || (s.serve request).answer.endsItems) := by
      rw [h.after_serve request, after_nexts_mark]
    show ((s.serve request).after.serveAll requests).after = _
    rw [ih (h.serve request), hnexts, mark_mark, hmark, Bool.or_assoc]
    rfl

/-- Request by request, the tokens are those that calls find. -/
theorem map_token?_serveAll (h : s.Sound input) (requests : List Request) :
    (s.serveAll requests).answer.map Reply.token? =
      (s.nexts requests.length).answer.map fun reply => reply.1.toOption.join := by
  induction requests generalizing s with
  | nil => rfl
  | cons request requests ih =>
    have hrest := ih (h.serve request)
    rw [h.after_serve request, answer_nexts_mark] at hrest
    show (s.serve request).answer.token? ::
        ((s.serve request).after.serveAll requests).answer.map Reply.token? = _
    rw [h.token?_serve request, h.after_serve request, hrest]
    rfl

/-- Every reply is the reply to one of the requests, behind which there are others. -/
theorem exists_serve_serveAll_of_mem (h : s.Sound input) {requests : List Request} {reply : Reply}
    (hreply : reply ∈ (s.serveAll requests).answer) :
    ∃ s' : Session S, s'.Sound input ∧ ∃ request later, reply = (s'.serve request).answer ∧
      (s.serveAll requests).after = ((s'.serve request).after.serveAll later).after := by
  induction requests generalizing s with
  | nil => cases hreply
  | cons request requests ih =>
    rcases List.mem_cons.1 hreply with rfl | hrest
    · exact ⟨s, h, request, requests, rfl, rfl⟩
    · exact ih (h.serve request) hrest

/-- Requests leave a session that is over as it is, but for the mark of the items. -/
theorem after_serveAll_of_over (h : s.Sound input) (hover : s.Over) (requests : List Request) :
    ∃ ended, (s.serveAll requests).after = s.mark ended := by
  have hnexts : (s.nexts requests.length).after = s := by
    cases hf : s.failure with
    | some e => rw [nexts_of_failure hf]
    | none => exact after_nexts_of_ahead_nil hf (hover.resolve_left fun hne => hne hf) _
  rw [h.after_serveAll requests, hnexts]
  exact ⟨_, rfl⟩

/-- Where a call has found nothing left, the session is at the end of its text and has not
failed. -/
theorem ended_of_next_none_mem (h : s.Sound input) {requests : List Request}
    (hmem : .next (.ok none) ∈ (s.serveAll requests).answer) :
    (s.serveAll requests).after.failure = none ∧ (s.serveAll requests).after.scan.ahead = [] := by
  obtain ⟨s', hs', request, later, hreply, hafter⟩ := h.exists_serve_serveAll_of_mem hmem
  cases request with
  | item => cases hreply
  | next =>
    obtain ⟨hf, hnil⟩ := next_none (Reply.next.inj hreply).symm
    obtain ⟨ended, hstays⟩ := hs'.next.after_serveAll_of_over (.inr hnil) later
    rw [hafter, show (s'.serve .next).after = s'.next.after from rfl, hstays]
    exact ⟨hf, hnil⟩

/-! ## From the start of the items on -/

variable (h : s.Sound input) (hs : s.finished = false) (requests : List Request)

include h hs

/-- The items are over where one of the replies is the last of them. -/
theorem finished_serveAll :
    (s.serveAll requests).after.finished = (s.serveAll requests).answer.any Reply.endsItems := by
  rw [h.after_serveAll requests, hs, Bool.false_or]
  rfl

/-- The next item shows what as many calls and one more come to, or the items are over. -/
theorem answer_item_serveAll :
    (s.serveAll requests).after.item.answer =
      if (s.serveAll requests).answer.any Reply.endsItems then none
      else itemOf (s.nexts requests.length).after.next.answer := by
  have hfinished := h.finished_serveAll hs requests
  cases hends : (s.serveAll requests).answer.any Reply.endsItems with
  | true => rw [item_of_finished (hfinished.trans hends), if_pos rfl]
  | false =>
    rw [item_of_not_finished (hfinished.trans hends), if_neg Bool.false_ne_true,
      h.after_serveAll requests, next_mark]

/-- As long as the items are not over, requests lead where as many calls lead. -/
theorem after_serveAll_eq_nexts
    (hends : (s.serveAll requests).answer.any Reply.endsItems = false) :
    (s.serveAll requests).after = (s.nexts requests.length).after := by
  rw [h.after_serveAll requests, hends, hs, Bool.or_self, ← hs, ← finished_nexts requests.length s,
    mark_finished]

/-- Where the items are over and no error has ended them, nothing is left. -/
theorem ended_of_item_none_mem (hf : s.failure = none)
    (hmem : .item none ∈ (s.serveAll requests).answer)
    (herrors : ∀ reply ∈ (s.serveAll requests).answer, reply.error? = none) :
    (s.serveAll requests).after.failure = none ∧ (s.serveAll requests).after.scan.ahead = [] := by
  have hfailure : (s.serveAll requests).after.failure = none := by
    rw [Option.eq_none_iff_forall_ne_some]
    intro e he
    obtain hstart | ⟨reply, hreply, herror⟩ := (failure_serveAll_iff requests s).1 he
    · cases hf.symm.trans hstart
    · cases (herrors reply hreply).symm.trans herror
  have hends : (s.serveAll requests).after.finished = true := by
    rw [h.finished_serveAll hs requests, List.any_eq_true]
    exact ⟨_, hmem, rfl⟩
  exact ⟨hfailure, ((h.serveAll requests).of_finished hends).resolve_left fun hne => hne hfailure⟩

end Sound

/-- No more than one of the items is an error, and none if an item has been the last one before. -/
theorem countP_isFault_serveAll_le (requests : List Request) (s : Session S) :
    (s.serveAll requests).answer.countP Reply.isFault ≤ if s.finished then 0 else 1 := by
  induction requests generalizing s with
  | nil => exact Nat.zero_le _
  | cons request requests ih =>
    have hrest := ih (s.serve request).after
    show ((s.serve request).answer :: ((s.serve request).after.serveAll requests).answer).countP _
      ≤ _
    rw [List.countP_cons]
    cases request with
    | next =>
      rw [show (s.serve .next).after.finished = s.finished from next_finished s] at hrest
      exact hrest
    | item =>
      rw [serve] at hrest ⊢
      cases hs : s.finished with
      | true =>
        rw [item_of_finished hs] at hrest ⊢
        rw [if_pos hs] at hrest
        exact hrest
      | false =>
        rw [item_of_not_finished hs] at hrest ⊢
        -- an error is the last item, and so there is no further one
        cases ha : s.next.answer with
        | error e =>
          rw [ha] at hrest
          exact Nat.succ_le_succ hrest
        | ok found =>
          rw [ha] at hrest
          cases found <;> exact Nat.le_trans hrest (by split <;> decide)

/-- What requests come to, next to what as many calls come to, from the same place on. -/
structure Mirrors (o : Outcome S (Session S) (List Reply))
    (o' : Outcome S (Session S) (List (Except Error (Option Token) × Place S))) : Prop where
  /-- Request by request, the tokens are those that calls find. -/
  tokens_eq : o.answer.map Reply.token? = o'.answer.map fun reply => reply.1.toOption.join
  /-- The session comes to the same place. -/
  scan_eq : o.after.scan = o'.after.scan
  /-- One more call answers the same. -/
  next_eq : o.after.next.answer = o'.after.next.answer
  /-- One more item is what a call answers, or none once an item has been none or an error. -/
  item_eq : o.after.item.answer =
    if o.answer.any Reply.endsItems then none else itemOf o'.after.next.answer
  /-- No more than one item is an error. -/
  faults_le_one : o.answer.countP Reply.isFault ≤ 1
  /-- An error that only calls have answered with is still an item. -/
  item_of_error_mem : ∀ e, .next (.error e) ∈ o.answer → o.answer.any Reply.endsItems = false →
    o.after.item.answer = some (.error e)
  /-- After an error, calls answer with it again and again, and no requests change the place. -/
  of_error_mem : ∀ e, (∃ reply ∈ o.answer, reply.error? = some e) → ∀ later,
    (o.after.serveAll later).after.next.answer = .error e ∧
      (o.after.serveAll later).after.scan = o.after.scan
  /-- After the end of the text, calls answer again and again that nothing is left, and no requests
  change the place. -/
  of_end_mem : .next (.ok none) ∈ o.answer ∨
      .item none ∈ o.answer ∧ (∀ reply ∈ o.answer, reply.error? = none) → ∀ later,
    (o.after.serveAll later).after.next.answer = .ok none ∧
      (o.after.serveAll later).after.scan = o.after.scan
  /-- The items that are left are the tokens and the error of the run that is left. -/
  drained : o.answer.any Reply.endsItems = false →
    o.after.items.answer = o'.after.run.answer.items ∧
      o.after.items.after.scan = o'.after.run.after.scan ∧
      o.after.collect.answer = o'.after.run.answer.result

end Session

/-- **Calls and items share what they find**: whatever a session is asked for from the start of a
text, in whatever order, its replies mirror those of as many calls alone. -/
theorem Scanner.mirrors_serveAll_lex [DecidableEq S] (scanner : Scanner S) (input : String)
    (requests : List Request) :
    Session.Mirrors ((scanner.lex input).answer.serveAll requests)
      ((scanner.lex input).answer.nexts requests.length) := by
  have hlex : (scanner.lex input).answer.Sound input := Session.sound_lex scanner input
  have hsound := hlex.serveAll requests
  have hnext : ((scanner.lex input).answer.serveAll requests).after.next.answer =
      ((scanner.lex input).answer.nexts requests.length).after.next.answer := by
    rw [hlex.after_serveAll requests, Session.next_mark]
  have hitem := hlex.answer_item_serveAll rfl requests
  have hfailure : ∀ e, (∃ reply ∈ ((scanner.lex input).answer.serveAll requests).answer,
      reply.error? = some e) →
      ((scanner.lex input).answer.serveAll requests).after.failure = some e :=
    fun e he => (Session.failure_serveAll_iff requests _).2 (.inr he)
  exact {
    tokens_eq := hlex.map_token?_serveAll requests
    scan_eq := by rw [hlex.after_serveAll requests, Session.mark_scan]
    next_eq := hnext
    item_eq := hitem
    faults_le_one := Session.countP_isFault_serveAll_le requests _
    item_of_error_mem := by
      intro e hmem hends
      have hf := hfailure e ⟨_, hmem, rfl⟩
      rw [hitem, hends, if_neg Bool.false_ne_true, ← hnext, Session.next_of_failure hf]
      rfl
    of_error_mem := by
      intro e hmem later
      have hf := hfailure e hmem
      have hover : ((scanner.lex input).answer.serveAll requests).after.Over :=
        .inl (hf ▸ Option.some_ne_none e)
      obtain ⟨ended, hstays⟩ := hsound.after_serveAll_of_over hover later
      rw [hstays, Session.next_mark, Session.next_of_failure hf]
      exact ⟨rfl, rfl⟩
    of_end_mem := by
      intro hmem later
      obtain ⟨hf, hnil⟩ := hmem.elim hlex.ended_of_next_none_mem fun hitems =>
        hlex.ended_of_item_none_mem rfl requests rfl hitems.1 hitems.2
      obtain ⟨ended, hstays⟩ := hsound.after_serveAll_of_over (.inr hnil) later
      rw [hstays, Session.next_mark, Session.next_of_ahead_nil hf hnil]
      exact ⟨rfl, rfl⟩
    drained := by
      intro hends
      have hopen := Session.finished_nexts requests.length (scanner.lex input).answer
      obtain ⟨hitems, hscan⟩ := Session.items_eq_run hopen
      rw [hlex.after_serveAll_eq_nexts rfl requests hends]
      exact ⟨hitems, hscan, Session.collect_eq_run hopen⟩ }

/-- Words with blanks between them, and nothing else. -/
def Scanner.plain : Scanner String :=
  (Builder.empty.addRuleSet
    { rules := [{ name := "WORD", pattern := "[a-z]+" }]
      ignored := [{ pattern := " +" }] }).after.scanner

/-- An error that a call reports first and an item once more, and the end of a text that an item
reports first and calls again and again. -/
theorem Scanner.mirrors_serveAll_plain :
    let o := (plain.lex "ab c?").answer.serveAll [.next, .item, .next]
    let o' := (plain.lex "ab c").answer.serveAll [.item, .next, .item]
    let e : Error := .noMatch ⟨4, 1, 5⟩
    (.next (.error e) ∈ o.answer ∧ o.answer.any Reply.endsItems = false) ∧
      o.after.item.answer = some (.error e) ∧ o.after.collect.answer = .error e ∧
      (o.after.serveAll [.item, .next]).after.next.answer = .error e ∧
      (o.after.serveAll [.item, .next]).after.scan = o.after.scan ∧
      (.item none ∈ o'.answer ∧ ∀ reply ∈ o'.answer, reply.error? = none) ∧
      (o'.after.serveAll [.next, .item]).after.next.answer = .ok none ∧
      (o'.after.serveAll [.next, .item]).after.scan = o'.after.scan := by
  intro o o' e
  have hmirrors := mirrors_serveAll_lex plain "ab c?" [.next, .item, .next]
  have hmirrors' := mirrors_serveAll_lex plain "ab c" [.item, .next, .item]
  have herror : .next (.error e) ∈ o.answer := by decide +kernel
  have hopen : o.answer.any Reply.endsItems = false := by decide +kernel
  have hend : .item none ∈ o'.answer ∧ ∀ reply ∈ o'.answer, reply.error? = none := by
    decide +kernel
  have hresult : ((plain.lex "ab c?").answer.nexts 3).after.run.answer.result = .error e := by
    decide +kernel
  obtain ⟨hagain, hstays⟩ := hmirrors.of_error_mem e ⟨_, herror, rfl⟩ [.item, .next]
  obtain ⟨hover, hstays'⟩ := hmirrors'.of_end_mem (.inr hend) [.next, .item]
  obtain ⟨-, -, hcollect⟩ := hmirrors.drained hopen
  exact ⟨⟨herror, hopen⟩, hmirrors.item_of_error_mem e herror hopen, hcollect.trans hresult, hagain,
    hstays, hend, hover, hstays'⟩

end ScanRules
