import ScanRules.Proofs.Session.Next

/-!
# Sessions under requests

A session can be asked for its next token or for its next item, in any order.

- `Request`, `Reply`, `Session.serve`, `Session.serveAll`: requests and what they come to.
- `Session.serve_idle_or_next`: both requests come to what a call comes to.
- `Session.keeps_serveAll`: requests change neither the scanner nor the text.
- `Session.Sound`: the invariant of a session. Its scan is within the text, a failure is one of the
  place where the session stands, and the sequence of its items is over only where there is nothing
  left.
- `Session.Sound.serveAll`: requests keep it.
-/

namespace ScanRules

/-- The ways to ask a session for more. -/
inductive Request where
  | next
  | item
  deriving DecidableEq, Repr

/-- What a session replies to a request. -/
inductive Reply where
  | next (answer : Except Error (Option Token))
  | item (answer : Option (Except Error Token))
  deriving DecidableEq, Repr

namespace Reply

/-- The token of a reply. -/
def token? : Reply → Option Token
  | next (.ok found) => found
  | item (some (.ok t)) => some t
  | next (.error _) | item (some (.error _)) | item none => none

/-- The error of a reply. -/
def error? : Reply → Option Error
  | next (.error e) | item (some (.error e)) => some e
  | next (.ok _) | item (some (.ok _)) | item none => none

@[simp] theorem token?_next_eq_some_iff {answer : Except Error (Option Token)} {t : Token} :
    (next answer).token? = some t ↔ answer = .ok (some t) := by
  cases answer <;> simp [token?]

@[simp] theorem error?_next_eq_some_iff {answer : Except Error (Option Token)} {e : Error} :
    (next answer).error? = some e ↔ answer = .error e := by
  cases answer <;> simp [error?]

end Reply

variable {S : Type} [DecidableEq S]

namespace Scan

variable {scanner : Scanner S} {c : Scan S} {o : Outcome S (Scan S) (Except Error (Option Token))}

/-- A search that fails reports the position where it stands. -/
theorem Search.position?_of_error (h : Search scanner c o) :
    ∀ e, o.answer = .error e → e.position? = some o.after.position := by
  induction h with
  | ended | found => exact fun _ h => nomatch h
  | failed hstep =>
    rintro e ⟨⟩
    obtain ⟨-, ⟨-, rfl⟩ | ⟨role, r, n, -, hfire⟩⟩ := step_eq_failed_iff.1 hstep
    · rfl
    · obtain ⟨-, rfl⟩ := fire_eq_error hfire
      rfl
  | skipped _ _ ih => exact ih

/-- A search that finds nothing has come to the end of the text. -/
theorem Search.ahead_of_none (h : Search scanner c o) :
    o.answer = .ok none → o.after.ahead = [] := by
  induction h with
  | ended hstep => exact fun _ => step_eq_ended_iff.1 hstep
  | failed | found => exact fun h => nomatch h
  | skipped _ _ ih => exact ih

/-- A token that is found has its position in the text. -/
theorem Search.inText?_of_token {text : String} (h : Search scanner c o) (hw : c.Within text) :
    ∀ t, o.answer = .ok (some t) →
      Position.inText? text.toList t.position.offset = some t.position := by
  induction h with
  | ended | failed => exact fun _ h => nomatch h
  | found =>
    rintro t ⟨⟩
    exact hw.inText?
  | skipped hstep _ ih => exact ih (hw.of_step hstep)

end Scan

namespace Session

/-- What one request comes to. -/
def serve : Request → Session S → Outcome S (Session S) Reply
  | .next, s => ⟨.next s.next.answer, s.next.after, s.next.events⟩
  | .item, s => ⟨.item s.item.answer, s.item.after, s.item.events⟩

/-- What requests come to, one after the other. -/
def serveAll : List Request → Session S → Outcome S (Session S) (List Reply)
  | [], s => ⟨[], s, []⟩
  | request :: requests, s =>
    let o := s.serve request
    let rest := serveAll requests o.after
    ⟨o.answer :: rest.answer, rest.after, o.events ++ rest.events⟩

/-- A request is either no longer served, or it replies what a call replies and leads to the same
place. -/
theorem serve_idle_or_next (request : Request) (s : Session S) :
    s.serve request = ⟨.item none, s, []⟩ ∨
      ((s.serve request).answer.token? = (Reply.next s.next.answer).token? ∧
        (s.serve request).answer.error? = (Reply.next s.next.answer).error? ∧
        (s.serve request).after.scan = s.next.after.scan) := by
  cases request with
  | next => exact .inr ⟨rfl, rfl, rfl⟩
  | item =>
    rw [serve]
    cases hs : s.finished with
    | true => exact .inl (by rw [item_of_finished hs])
    | false =>
      refine .inr ?_
      match ha : s.next.answer with
      | .ok (some t) =>
        rw [item_of_some hs ha]
        exact ⟨rfl, rfl, rfl⟩
      | .ok none =>
        rw [item_of_none hs ha]
        exact ⟨rfl, rfl, rfl⟩
      | .error e =>
        rw [item_of_error hs ha]
        exact ⟨rfl, rfl, rfl⟩

/-- Whatever it is asked for, a session keeps its scanner and its text. -/
theorem keeps_serve (request : Request) (s : Session S) :
    (s.serve request).after.scanner = s.scanner ∧ (s.serve request).after.input = s.input := by
  cases request with
  | next => exact ⟨next_scanner s, next_input s⟩
  | item =>
    rw [serve]
    cases hs : s.finished with
    | true => exact item_of_finished hs ▸ ⟨rfl, rfl⟩
    | false =>
      match ha : s.next.answer with
      | .ok (some t) => exact item_of_some hs ha ▸ ⟨next_scanner s, next_input s⟩
      | .ok none => exact item_of_none hs ha ▸ ⟨next_scanner s, next_input s⟩
      | .error e => exact item_of_error hs ha ▸ ⟨next_scanner s, next_input s⟩

theorem keeps_serveAll (requests : List Request) (s : Session S) :
    (s.serveAll requests).after.scanner = s.scanner ∧
      (s.serveAll requests).after.input = s.input := by
  induction requests generalizing s with
  | nil => exact ⟨rfl, rfl⟩
  | cons request requests ih =>
    obtain ⟨hscanner, hinput⟩ := keeps_serve request s
    obtain ⟨hscanner', hinput'⟩ := ih (s.serve request).after
    exact ⟨hscanner'.trans hscanner, hinput'.trans hinput⟩

/-- A session in the middle of a text, as requests leave it. -/
structure Sound (input : String) (s : Session S) : Prop where
  within : s.scan.Within input
  position?_failure : ∀ e, s.failure = some e → e.position? = some s.scan.position
  of_finished : s.finished → s.failure ≠ none ∨ s.scan.ahead = []

omit [DecidableEq S] in
theorem sound_lex (scanner : Scanner S) (input : String) :
    (scanner.lex input).answer.Sound input where
  within := Scan.within_start input []
  position?_failure := fun _ h => nomatch h
  of_finished := fun h => nomatch h

variable {input : String} {s : Session S}

/-- A session that fails has its failure where it stands. -/
theorem Sound.position?_of_next (h : s.Sound input) {e : Error} (he : s.next.answer = .error e) :
    s.next.after.failure = some e ∧ e.position? = some s.next.after.scan.position := by
  cases hf : s.failure with
  | some e' =>
    rw [next_of_failure hf] at he ⊢
    obtain rfl := Except.error.inj he
    exact ⟨hf, h.position?_failure e' hf⟩
  | none =>
    rw [next_of_search hf] at he ⊢
    exact ⟨failureOf_eq_some_iff.2 he, (Scan.search_token ..).position?_of_error e he⟩

/-- A session that finds nothing has not failed, and stands at the end of its text. -/
theorem next_none (h : s.next.answer = .ok none) :
    s.next.after.failure = none ∧ s.next.after.scan.ahead = [] := by
  cases hf : s.failure with
  | some e =>
    rw [next_of_failure hf] at h
    cases h
  | none =>
    rw [next_of_search hf] at h ⊢
    exact ⟨congrArg failureOf h, (Scan.search_token ..).ahead_of_none h⟩

/-- At the end of its text a session stays where it is. -/
theorem next_of_ahead_nil (hf : s.failure = none) (h : s.scan.ahead = []) :
    s.next = ⟨.ok none, s, [.ended]⟩ := by
  have ht : s.scan.token s.scanner = ⟨.ok none, s.scan, [.ended]⟩ :=
    Scan.token_of_ended (Scan.step_eq_ended_iff.2 h)
  rw [next_of_ok hf (congrArg Outcome.answer ht), ht]

/-- There it stays, however often it is called. -/
theorem after_nexts_of_ahead_nil (hf : s.failure = none) (h : s.scan.ahead = []) (n : Nat) :
    (s.nexts n).after = s := by
  induction n with
  | zero => rfl
  | succ n ih =>
    rw [nexts_succ, next_of_ahead_nil hf h]
    exact ih

theorem Sound.next (h : s.Sound input) : s.next.after.Sound input := by
  cases hf : s.failure with
  | some e => rwa [next_of_failure hf]
  | none =>
    by_cases hnil : s.scan.ahead = []
    · rwa [next_of_ahead_nil hf hnil]
    · -- nothing is over before the end, so only the scan and the failure matter
      have hover : ¬ s.finished := fun hs => (h.of_finished hs).elim (absurd hf) hnil
      rw [next_of_search hf]
      refine ⟨h.within.of_search (Scan.search_token ..), ?_, fun hs => absurd hs hover⟩
      intro e he
      exact (Scan.search_token ..).position?_of_error e (failureOf_eq_some_iff.1 he)

theorem Sound.item (h : s.Sound input) : s.item.after.Sound input := by
  cases hs : s.finished with
  | true => rwa [item_of_finished hs]
  | false =>
    match ha : s.next.answer with
    | .ok (some t) =>
      rw [item_of_some hs ha]
      exact h.next
    | .ok none =>
      rw [item_of_none hs ha]
      exact { h.next with of_finished := fun _ => .inr (next_none ha).2 }
    | .error e =>
      rw [item_of_error hs ha]
      refine { h.next with of_finished := fun _ => .inl ?_ }
      rw [(h.position?_of_next ha).1]
      exact Option.some_ne_none e

theorem Sound.serve (h : s.Sound input) (request : Request) :
    (s.serve request).after.Sound input := by
  cases request with
  | next => exact h.next
  | item => exact h.item

/-- Requests leave a sound session. -/
theorem Sound.serveAll (h : s.Sound input) (requests : List Request) :
    (s.serveAll requests).after.Sound input := by
  induction requests generalizing s with
  | nil => exact h
  | cons request requests ih => exact ih (h.serve request)

end Session

end ScanRules
