import ScanRules.Proofs.Session.Requests
import ScanRules.Proofs.Session.Run

/-!
# Sequences of items

A session seen as a sequence gives the tokens of its run, then its error if there is one, and after
that nothing at all.

- `Run.items`, `Run.result`: the items that a run amounts to, one by one and as a whole.
- `Session.serveAll_replicate_item`: what asking for items comes to, one at a time.
- `Session.items_eq_run`, `Session.collect_eq_run`: what asking for all of them at once comes to.
-/

namespace ScanRules

variable {S : Type}

/-- The items that a run amounts to: its tokens, and the error that has ended it. -/
def Run.items (r : Run S) : List (Except Error Token) :=
  (r.tokens.map fun t => .ok t.1) ++ r.stopped.toList.map .error

/-- What a run amounts to as a whole: its tokens, or else the error that has ended it. -/
def Run.result (r : Run S) : Except Error (List Token) :=
  match r.stopped with
  | none => .ok (r.tokens.map (·.1))
  | some e => .error e

theorem Run.mapM_items (r : Run S) : r.items.mapM id = r.result := by
  obtain ⟨tokens, stopped⟩ := r
  induction tokens with
  | nil => cases stopped <;> rfl
  | cons t tokens ih =>
    have hcons : Run.items ⟨t :: tokens, stopped⟩ = .ok t.1 :: Run.items ⟨tokens, stopped⟩ := rfl
    rw [hcons, List.mapM_cons, ih]
    cases stopped <;> rfl

namespace Session

variable [DecidableEq S] {s : Session S}

theorem run_of_answer_error {e : Error} (ha : s.next.answer = .error e) :
    s.run = ⟨⟨[], some e⟩, s.next.after, s.next.events⟩ :=
  run_of_error (by rw [← ha])

theorem run_of_answer_none (ha : s.next.answer = .ok none) :
    s.run = ⟨⟨[], none⟩, s.next.after, s.next.events⟩ :=
  run_of_none (by rw [← ha])

theorem run_of_answer_some {t : Token} (ha : s.next.answer = .ok (some t)) :
    s.run = ⟨{ s.next.after.run.answer with
        tokens := (t, s.next.after.scan.states) :: s.next.after.run.answer.tokens },
      s.next.after.run.after, s.next.events ++ s.next.after.run.events⟩ :=
  run_of_some (by rw [← ha])

/-- The session whose sequence is over replies to nothing any more. -/
theorem serveAll_of_finished (hs : s.finished = true) (n : Nat) :
    s.serveAll (List.replicate n .item) = ⟨List.replicate n (.item none), s, []⟩ := by
  induction n with
  | zero => rfl
  | succ n ih => simp only [List.replicate_succ, serveAll, serve, item_of_finished hs, ih,
      List.append_nil]

/-- Asked for its items one at a time, a session gives those of its run and then none, by induction
on the text ahead. -/
theorem serveAll_replicate_item (hs : s.finished = false) (n : Nat) :
    (s.serveAll (List.replicate (s.run.answer.items.length + n) .item)).answer =
      s.run.answer.items.map (fun i => .item (some i)) ++ List.replicate n (.item none) := by
  induction hlen : s.scan.ahead.length using Nat.strongRecOn generalizing s with
  | _ len ih =>
    subst hlen
    have hover : ({ s.next.after with finished := true } : Session S).finished = true := rfl
    match ha : s.next.answer with
    | .error e =>
      rw [run_of_answer_error ha]
      show (s.serveAll (List.replicate (1 + n) .item)).answer = _
      rw [Nat.add_comm 1 n, List.replicate_succ]
      simp only [serveAll, serve, item_of_error hs ha, serveAll_of_finished hover]
      rfl
    | .ok none =>
      rw [run_of_answer_none ha]
      show (s.serveAll (List.replicate (0 + n) .item)).answer = List.replicate n (.item none)
      cases n with
      | zero => rfl
      | succ n =>
        rw [Nat.zero_add, List.replicate_succ]
        simp only [serveAll, serve, item_of_none hs ha, serveAll_of_finished hover]
        rfl
    | .ok (some t) =>
      -- the first item is this token, and the others are those of the session behind it
      have hnext : s.next.after.finished = false := (next_finished s).trans hs
      have hitems : s.run.answer.items = .ok t :: s.next.after.run.answer.items := by
        rw [run_of_answer_some ha]
        rfl
      rw [hitems, List.length_cons, Nat.add_right_comm, List.replicate_succ]
      simp only [serveAll, serve, item_of_some hs ha]
      rw [ih _ (length_ahead_next_lt ha) hnext rfl]
      rfl

theorem items_of_error {s' : Session S} {e : Error} {events : List (Event S)}
    (h : s.item = ⟨some (.error e), s', events⟩) : s.items = ⟨[.error e], s', events⟩ := by
  rw [items, h]

theorem items_of_none {s' : Session S} {events : List (Event S)}
    (h : s.item = ⟨none, s', events⟩) : s.items = ⟨[], s', events⟩ := by
  rw [items, h]

theorem items_of_some {s' : Session S} {t : Token} {events : List (Event S)}
    (h : s.item = ⟨some (.ok t), s', events⟩) :
    s.items = ⟨.ok t :: s'.items.answer, s'.items.after, events ++ s'.items.events⟩ := by
  rw [items, h]

/-- All items that are left are those of the run, and they lead to the same place. -/
theorem items_eq_run (hs : s.finished = false) :
    s.items.answer = s.run.answer.items ∧ s.items.after.scan = s.run.after.scan := by
  induction hlen : s.scan.ahead.length using Nat.strongRecOn generalizing s with
  | _ len ih =>
    subst hlen
    match ha : s.next.answer with
    | .error e =>
      rw [items_of_error (item_of_error hs ha), run_of_answer_error ha]
      exact ⟨rfl, rfl⟩
    | .ok none =>
      rw [items_of_none (item_of_none hs ha), run_of_answer_none ha]
      exact ⟨rfl, rfl⟩
    | .ok (some t) =>
      have hnext : s.next.after.finished = false := (next_finished s).trans hs
      obtain ⟨hitems, hscan⟩ := ih _ (length_ahead_next_lt ha) hnext rfl
      rw [items_of_some (item_of_some hs ha), run_of_answer_some ha]
      exact ⟨congrArg (.ok t :: ·) hitems, hscan⟩

/-- Collected, the items are the tokens of the run, or else its error. -/
theorem collect_eq_run (hs : s.finished = false) : s.collect.answer = s.run.answer.result := by
  rw [collect, (items_eq_run hs).1, Run.mapM_items]

end Session

end ScanRules
