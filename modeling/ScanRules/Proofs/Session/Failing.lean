import ScanRules.Proofs.Scan.Walk
import ScanRules.Proofs.Session.Requests

/-!
# Calls that fail

A call may pass over much ignored text before it fails. What it has passed over stays so, and the
step that fails does nothing.

- `Session.exists_walk_of_error`: a call that fails is a walk of ignored rules to the place where it
  fails.
- `Scanner.stands_of_error_lex`: where a session stands after a call that has failed.
-/

namespace ScanRules

variable {S : Type} [DecidableEq S]

/-- A call that fails walks over ignored rules to a place where the scan fails. Nothing else is
reported on the way. -/
theorem Session.exists_walk_of_error {s : Session S} {e : Error} (hf : s.failure = none)
    (he : s.next.answer = .error e) :
    ∃ skipped, Scan.Walk s.scanner s.scan skipped s.next.after.scan ∧
      (∀ f ∈ skipped, f.role = .ignored) ∧
      s.next.after.scan.step s.scanner = .failed e ∧
      s.next.events = skipped.flatMap Scan.Fired.events := by
  obtain ⟨skipped, d, o', hwalk, hignored, hstops, ho⟩ :=
    (Scan.search_token s.scanner s.scan).exists_walk
  rw [next_of_search hf, ho] at he ⊢
  -- the step that ends the search is the one that answers, and only a failed step is an error
  cases hstops with
  | ended | found => cases he
  | failed hstep =>
    obtain rfl := Except.error.inj he
    exact ⟨skipped, hwalk, hignored, hstep, by simp [Outcome.afterEvents]⟩

omit [DecidableEq S] in
/-- Where a scanner fails, it stands in front of the end of the text. -/
theorem Scanner.Fails.offset_lt {scanner : Scanner S} {text : String} {p : Place S} {e : Error}
    (h : scanner.Fails text p e) : p.offset < byteSize text.toList := by
  cases h with
  | noMatch hend => exact hend
  | underflow hend => exact hend

omit [DecidableEq S] in
/-- A scanner underflows where the stack is empty. -/
theorem Scanner.Fails.stack_eq_nil {scanner : Scanner S} {text : String} {p : Place S}
    {name : String} {position : Position} (h : scanner.Fails text p (.underflow name position)) :
    p.stack = [] := by
  cases h with
  | underflow _ _ _ hstack => exact hstack

/-- **A call that fails leaves nothing half done**: let a session that has not failed be called
after any requests, and let the call fail. Then the session stands where the error says, in front of
the end of the text. What has fired during this call is a walk of ignored rules, all of which the
events of the call tell of, and the stack is the one before the call as these rules have changed
it, one after the other. It is there that the scanner fails: with this place and this stack no rule
takes any text, or one fires that pops, and the stack is empty still. -/
theorem Scanner.stands_of_error_lex (scanner : Scanner S) (input : String)
    (requests : List Request) :
    let s := ((scanner.lex input).answer.serveAll requests).after
    let o := s.next
    s.failure = none → ∀ e, o.answer = .error e →
      e.position? = some o.after.scan.position ∧
      o.after.scan.position.offset < byteSize input.toList ∧
      (∃ skipped, Scan.Walk scanner s.scan skipped o.after.scan ∧
        (∀ f ∈ skipped, f.role = .ignored) ∧ o.events = skipped.flatMap Scan.Fired.events ∧
        o.after.place.stack = skipped.foldl (fun stack f => f.rule.stackAfter stack) s.place.stack) ∧
      scanner.Fails input o.after.place e ∧
      ∀ name position, e = .underflow name position → o.after.place.stack = [] := by
  intro s o hf e he
  have hsound : s.Sound input := (Session.sound_lex scanner input).serveAll requests
  have hscanner : s.scanner = scanner := (Session.keeps_serveAll requests _).1
  obtain ⟨skipped, hwalk, hignored, hstep, hevents⟩ := Session.exists_walk_of_error hf he
  rw [hscanner] at hwalk hstep
  have hfails : scanner.Fails input o.after.place e := hsound.next.within.fails_iff.2 hstep
  refine ⟨(hsound.position?_of_next he).2, hfails.offset_lt, ?_, hfails, ?_⟩
  · exact ⟨skipped, hwalk, hignored, hevents, hwalk.stack_eq⟩
  · rintro name position rfl
    exact hfails.stack_eq_nil

/-- Words and closing brackets, where round brackets are ignored but keep count of themselves. -/
def Scanner.brackets : Scanner String :=
  (Builder.empty.addRuleSet
    { rules := [{ name := "WORD", pattern := "[a-z]+" },
        { name := "CLOSE", pattern := "]", pop := true, push := ["after"] }]
      ignored := [{ pattern := "[(]", push := ["inside"] },
        { pattern := "[)]", state := some "inside", pop := true }, { pattern := " +" }] }).after.scanner

/-- The second call passes over a pair of round brackets and then comes to a bracket too many. -/
theorem Scanner.stands_of_error_brackets :
    let s := ((brackets.lex "a( )]").answer.serveAll [.next]).after
    let o := s.next
    (s.failure = none ∧ o.answer = .error (.underflow "CLOSE" ⟨4, 1, 5⟩)) ∧
      o.after.scan.position = ⟨4, 1, 5⟩ ∧
      (∃ skipped, Scan.Walk brackets s.scan skipped o.after.scan ∧
        o.after.place.stack = skipped.foldl (fun stack f => f.rule.stackAfter stack) s.place.stack) ∧
      brackets.Fails "a( )]" o.after.place (.underflow "CLOSE" ⟨4, 1, 5⟩) ∧
      o.after.place.stack = [] := by
  intro s o
  have hf : s.failure = none := by decide +kernel
  have he : o.answer = .error (.underflow "CLOSE" ⟨4, 1, 5⟩) := by decide +kernel
  obtain ⟨hposition, -, ⟨skipped, hwalk, -, -, hstack⟩, hfails, hnil⟩ :=
    stands_of_error_lex brackets "a( )]" [.next] hf _ he
  refine ⟨⟨hf, he⟩, ?_, ⟨skipped, hwalk, hstack⟩, hfails, hnil _ _ rfl⟩
  exact (Option.some.inj hposition).symm

end ScanRules
