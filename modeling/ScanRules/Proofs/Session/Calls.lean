import ScanRules.Proofs.Session.Next

/-!
# Sessions do what scanners mean

A session goes through its text in two loops, and it keeps a stack, a position and a failure. What
it answers is what the rules of scanning say about offsets of the text.

- `Session.calls_nexts`: what a session answers that has not failed, at any place.
- `Scanner.Calls.eq_nexts`: there is nothing else that it could answer.
- `Scanner.answer_nexts_lex_eq_iff`: from the start of a text. The answers of any number of calls,
  with the places after them, are those of `Scanner.Calls` and no others.
-/

namespace ScanRules

variable {S : Type} [DecidableEq S]

namespace Session

variable {text : String} {s : Session S}

theorem length_answer_nexts (n : Nat) (s : Session S) : (s.nexts n).answer.length = n := by
  induction n generalizing s with
  | zero => rfl
  | succ n ih => rw [nexts_succ, List.length_cons, ih]

/-- What a session answers that has not failed, by induction on the number of calls: either the
session goes on, or all further calls repeat its error. -/
theorem calls_nexts (n : Nat) (hf : s.failure = none) (hw : s.scan.Within text) :
    s.scanner.Calls text s.place (s.nexts n).answer := by
  induction n generalizing s with
  | zero => exact .nil
  | succ n ih =>
    have hsearch := Scan.search_token s.scanner s.scan
    have hcall : s.scanner.Call text s.place (s.scan.token s.scanner).answer
      (s.scan.token s.scanner).after.place := hw.call_of_search hsearch
    rw [nexts_succ]
    cases ht : (s.scan.token s.scanner).answer with
    | ok found =>
      rw [next_of_ok hf ht]
      exact .answered (ht ▸ hcall)
        (@ih { s with scan := (s.scan.token s.scanner).after } hf (hw.of_search hsearch))
    | error e =>
      rw [next_of_error hf ht, nexts_of_failure rfl]
      exact .failed n (ht ▸ hcall)

end Session

/-- There are no other answers, by induction on the calls: each one is a search for a token. -/
theorem Scanner.Calls.eq_nexts {scanner : Scanner S} {text : String} {p : Place S}
    {replies : List (Except Error (Option Token) × Place S)}
    (h : scanner.Calls text p replies) :
    ∀ {s : Session S}, s.scanner = scanner → s.failure = none → s.scan.Within text →
      s.place = p → replies = (s.nexts replies.length).answer := by
  induction h with
  | nil => exact fun _ _ _ _ => rfl
  | answered hfirst _ ih =>
    rintro s rfl hf hw rfl
    obtain ⟨hanswer, rfl⟩ := Scan.Within.eq_token_of_call hfirst hw rfl
    rw [List.length_cons, Session.nexts_succ, Session.next_of_ok hf hanswer.symm]
    exact congrArg (_ :: ·) (ih rfl hf (hw.of_search (Scan.search_token ..)) rfl)
  | failed again hfirst =>
    rintro s rfl hf hw rfl
    obtain ⟨hanswer, rfl⟩ := Scan.Within.eq_token_of_call hfirst hw rfl
    rw [List.length_replicate, Session.nexts_succ, Session.next_of_error hf hanswer.symm,
      Session.nexts_of_failure rfl]
    rfl

/-- **Sessions do what scanners mean**: any number of calls from the start of a text is answered,
call by call, as the rules of scanning say, and the session is at the place where they lead. -/
theorem Scanner.answer_nexts_lex_eq_iff (scanner : Scanner S) (input : String) (n : Nat)
    (replies : List (Except Error (Option Token) × Place S)) :
    ((scanner.lex input).answer.nexts n).answer = replies ↔
      replies.length = n ∧ scanner.Calls input ⟨0, []⟩ replies := by
  have hw : (scanner.lex input).answer.scan.Within input := Scan.within_start input []
  constructor
  · rintro rfl
    refine ⟨Session.length_answer_nexts .., ?_⟩
    exact Session.calls_nexts (s := (scanner.lex input).answer) n rfl hw
  · rintro ⟨rfl, hcalls⟩
    exact (hcalls.eq_nexts rfl rfl hw rfl).symm

end ScanRules
