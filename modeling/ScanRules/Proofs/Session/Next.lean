import ScanRules.Proofs.Scan.Within
import ScanRules.Session

/-!
# Calls of a session

- `Session.next_of_failure`, `Session.next_of_search`: a call repeats the failure of the session, or
  else it searches for a token.
- `Session.next_of_ok`, `Session.next_of_error`: what it is then, by the answer of the search.
- `Session.item_of_finished`, `Session.item_of_some`, `Session.item_of_none`,
  `Session.item_of_error`: an item is what a call finds, as long as the sequence is not over.
- `Session.nexts`: a number of calls in a row, each answer with the place after it.
-/

namespace ScanRules

namespace Session

variable {S : Type}

/-- The place of a session in its text. -/
def place (s : Session S) : Place S := s.scan.place

variable [DecidableEq S] {s : Session S} {e : Error} {found : Option Token}

theorem next_of_failure (h : s.failure = some e) : s.next = ⟨.error e, s, []⟩ := by
  rw [next, h]

/-- The failure that an answer leaves behind. -/
def failureOf : Except Error (Option Token) → Option Error
  | .ok _ => none
  | .error e => some e

omit [DecidableEq S] in
theorem failureOf_eq_some_iff {answer : Except Error (Option Token)} :
    failureOf answer = some e ↔ answer = .error e := by
  cases answer <;> simp [failureOf]

/-- A session that has not failed searches for a token. -/
theorem next_of_search (h : s.failure = none) :
    s.next = ⟨(s.scan.token s.scanner).answer,
      { s with scan := (s.scan.token s.scanner).after,
               failure := failureOf (s.scan.token s.scanner).answer },
      (s.scan.token s.scanner).events⟩ := by
  rw [next, h]
  cases ht : (s.scan.token s.scanner).answer with
  | ok found => simp only [ht, failureOf]
  | error e => simp only [ht, failureOf]

theorem next_of_ok (h : s.failure = none)
    (ht : (s.scan.token s.scanner).answer = .ok found) :
    s.next = ⟨.ok found, { s with scan := (s.scan.token s.scanner).after },
      (s.scan.token s.scanner).events⟩ := by
  rw [next, h]
  simp only [ht]

theorem next_of_error (h : s.failure = none)
    (ht : (s.scan.token s.scanner).answer = .error e) :
    s.next = ⟨.error e, { s with scan := (s.scan.token s.scanner).after, failure := some e },
      (s.scan.token s.scanner).events⟩ := by
  rw [next, h]
  simp only [ht]

theorem item_of_finished (h : s.finished = true) : s.item = ⟨none, s, []⟩ := by
  rw [item, if_pos h]

theorem item_of_some {t : Token} (h : s.finished = false) (ha : s.next.answer = .ok (some t)) :
    s.item = ⟨some (.ok t), s.next.after, s.next.events⟩ := by
  simp only [item, h, Bool.false_eq_true, if_false, ha]

theorem item_of_none (h : s.finished = false) (ha : s.next.answer = .ok none) :
    s.item = ⟨none, { s.next.after with finished := true }, s.next.events⟩ := by
  simp only [item, h, Bool.false_eq_true, if_false, ha]

theorem item_of_error (h : s.finished = false) (ha : s.next.answer = .error e) :
    s.item = ⟨some (.error e), { s.next.after with finished := true }, s.next.events⟩ := by
  simp only [item, h, Bool.false_eq_true, if_false, ha]

/-- A session keeps its scanner. -/
@[simp] theorem next_scanner (s : Session S) : s.next.after.scanner = s.scanner := by
  cases hf : s.failure with
  | some e => rw [next_of_failure hf]
  | none => rw [next_of_search hf]

/-- It keeps its text, too. -/
@[simp] theorem next_input (s : Session S) : s.next.after.input = s.input := by
  cases hf : s.failure with
  | some e => rw [next_of_failure hf]
  | none => rw [next_of_search hf]

/-- Calls do not matter to the sequence of items. -/
@[simp] theorem next_finished (s : Session S) : s.next.after.finished = s.finished := by
  cases hf : s.failure with
  | some e => rw [next_of_failure hf]
  | none => rw [next_of_search hf]

/-- A number of calls in a row. -/
def nexts : Nat → Session S →
    Outcome S (Session S) (List (Except Error (Option Token) × Place S))
  | 0, s => ⟨[], s, []⟩
  | n + 1, s =>
    let o := s.next
    let rest := nexts n o.after
    ⟨(o.answer, o.after.place) :: rest.answer, rest.after, o.events ++ rest.events⟩

theorem nexts_succ (n : Nat) (s : Session S) :
    nexts (n + 1) s = ⟨(s.next.answer, s.next.after.place) :: (nexts n s.next.after).answer,
      (nexts n s.next.after).after, s.next.events ++ (nexts n s.next.after).events⟩ := rfl

@[simp] theorem nexts_scanner (n : Nat) (s : Session S) :
    (s.nexts n).after.scanner = s.scanner := by
  induction n generalizing s with
  | zero => rfl
  | succ n ih => exact (ih s.next.after).trans (next_scanner s)

/-- A failed session gives the same answer over and over, and stays where it is. -/
theorem nexts_of_failure (h : s.failure = some e) (n : Nat) :
    s.nexts n = ⟨List.replicate n (.error e, s.place), s, []⟩ := by
  induction n with
  | zero => rfl
  | succ n ih => rw [nexts_succ, next_of_failure h, ih, List.replicate_succ, List.append_nil]

end Session

end ScanRules
