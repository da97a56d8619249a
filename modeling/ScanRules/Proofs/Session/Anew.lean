import ScanRules.Proofs.Scan.Shifted
import ScanRules.Proofs.Session.Failing
import ScanRules.Proofs.Session.Invariant
import ScanRules.Proofs.Session.Mixing
import ScanRules.Proofs.Session.Run

/-!
# Sessions over the rest of a text

Where no pattern has an assertion, a session could be given up at any point and another one started
over the rest of the text, with the same stack.

- `Session.Standing`: a session that has failed stands where its scan fails.
- `Session.Follows`: two sessions, one of them over the rest of the text of the other.
- `Session.Follows.serveAll`, `Session.Follows.run`: they reply the same, but for positions.
- `Session.anew`: the session over the rest of the text.
- `Scanner.Underway`: the sessions over a text, at all points of all their runs.
- `Scanner.follows_anew`: what is left of a run is the run over what is left of the text.
-/

namespace ScanRules

variable {S : Type}

/-- A reply about the rest of a text, seen in the whole text. -/
def Reply.shift (base : Position) : Reply → Reply
  | next answer => next (shiftAnswer base answer)
  | item none => item none
  | item (some (.ok t)) => item (some (.ok (t.shift base)))
  | item (some (.error e)) => item (some (.error (e.shift base)))

/-- A run over the rest of a text, seen in the whole text. -/
def Run.shift (base : Position) (r : Run S) : Run S where
  tokens := r.tokens.map fun t => (t.1.shift base, t.2)
  stopped := r.stopped.map (·.shift base)

theorem shift_item_itemOf (base : Position) (answer : Except Error (Option Token)) :
    (Reply.item (itemOf answer)).shift base = .item (itemOf (shiftAnswer base answer)) := by
  match answer with
  | .ok none | .ok (some _) | .error _ => rfl

theorem Reply.endsItems_shift (base : Position) (reply : Reply) :
    (reply.shift base).endsItems = reply.endsItems := by
  match reply with
  | .next _ | .item none | .item (some (.ok _)) | .item (some (.error _)) => rfl

namespace Session

/-- The session over the rest of the text, with the same stack. -/
def anew (s : Session S) : Session S :=
  { s with
    input := String.ofList s.scan.ahead
    scan := .start s.scan.ahead s.scan.states
    failure := none }

variable [DecidableEq S]

/-- If the session has failed, it stands where its scan fails. -/
def Standing (s : Session S) : Prop :=
  ∀ e, s.failure = some e → s.scan.step s.scanner = .failed e

variable {base : Position} {s t : Session S}

theorem standing_of_not_failed (h : s.failure = none) : s.Standing :=
  fun _ he => nomatch h.symm.trans he

/-- Whether it has failed or not, such a session answers what its scan finds. -/
theorem Standing.next (h : s.Standing) :
    s.next.answer = (s.scan.token s.scanner).answer ∧
      s.next.after.scan = (s.scan.token s.scanner).after ∧ s.next.after.Standing := by
  cases hf : s.failure with
  | some e =>
    rw [next_of_failure hf, Scan.token_of_failed (h e hf)]
    exact ⟨rfl, rfl, h⟩
  | none =>
    refine ⟨by rw [next_of_search hf], by rw [next_of_search hf], fun e he => ?_⟩
    obtain ⟨-, -, -, hstep, -⟩ := exists_walk_of_error hf (failure_next_iff.1 he)
    rwa [next_scanner]

/-- Requests leave such a session. -/
theorem Standing.serve (h : s.Standing) (request : Request) : (s.serve request).after.Standing := by
  cases request with
  | next => exact h.next.2.2
  | item =>
    rw [Session.serve]
    cases hs : s.finished with
    | true => rwa [item_of_finished hs]
    | false =>
      rw [item_of_not_finished hs]
      exact h.next.2.2

/-- The second session is in a text where the first one is in the rest of it from `base` on. -/
structure Follows (base : Position) (t s : Session S) : Prop where
  scanner_eq : s.scanner = t.scanner
  shifted : Scan.Shifted base t.scan s.scan
  standing : t.Standing
  standing' : s.Standing

namespace Follows

/-- Both answer a call alike. -/
theorem next (h : Follows base t s) (hfree : t.scanner.AssertionFree) :
    s.next.answer = shiftAnswer base t.next.answer ∧ Follows base t.next.after s.next.after := by
  obtain ⟨hanswer, hscan, hstanding⟩ := h.standing.next
  obtain ⟨hanswer', hscan', hstanding'⟩ := h.standing'.next
  obtain ⟨htoken, hshifted⟩ := h.shifted.token hfree
  rw [h.scanner_eq] at hanswer' hscan'
  refine ⟨by rw [hanswer', htoken, hanswer], ?_, ?_, hstanding, hstanding'⟩
  · rw [next_scanner, next_scanner, h.scanner_eq]
  · rwa [hscan, hscan']

/-- Both reply to a request alike. -/
theorem serve (h : Follows base t s) (hfree : t.scanner.AssertionFree)
    (hs : s.finished = t.finished) (request : Request) :
    (s.serve request).answer = (t.serve request).answer.shift base ∧
      Follows base (t.serve request).after (s.serve request).after ∧
      (s.serve request).after.finished = (t.serve request).after.finished := by
  obtain ⟨hanswer, hnext⟩ := h.next hfree
  cases request with
  | next =>
    refine ⟨congrArg Reply.next hanswer, hnext, ?_⟩
    exact (next_finished s).trans (hs.trans (next_finished t).symm)
  | item =>
    simp only [Session.serve]
    cases ht : t.finished with
    | true =>
      rw [item_of_finished ht, item_of_finished (hs.trans ht)]
      exact ⟨rfl, h, hs⟩
    | false =>
      -- the mark is set by the item, which is the same but for its position
      have hends : (Reply.item (itemOf s.next.answer)).endsItems =
          (Reply.item (itemOf t.next.answer)).endsItems := by
        rw [hanswer, ← shift_item_itemOf, Reply.endsItems_shift]
      rw [item_of_not_finished ht, item_of_not_finished (hs.trans ht), hends]
      refine ⟨by rw [shift_item_itemOf, hanswer], ?_, rfl⟩
      exact ⟨hnext.scanner_eq, hnext.shifted, hnext.standing, hnext.standing'⟩

/-- Both reply to any requests alike. -/
theorem serveAll (requests : List Request) {s t : Session S} (h : Follows base t s)
    (hfree : t.scanner.AssertionFree) (hs : s.finished = t.finished) :
    (s.serveAll requests).answer = (t.serveAll requests).answer.map (·.shift base) ∧
      Follows base (t.serveAll requests).after (s.serveAll requests).after := by
  induction requests generalizing s t with
  | nil => exact ⟨rfl, h⟩
  | cons request requests ih =>
    obtain ⟨hanswer, hfollows, hfinished⟩ := h.serve hfree hs request
    have hkeeps : (t.serve request).after.scanner = t.scanner := (keeps_serve request t).1
    obtain ⟨hrest, hlast⟩ := ih hfollows (hkeeps ▸ hfree) hfinished
    refine ⟨?_, hlast⟩
    simp only [Session.serveAll, List.map_cons, hanswer, hrest]

/-- The runs of both are alike, by induction on the text ahead. -/
theorem run {s t : Session S} (h : Follows base t s) (hfree : t.scanner.AssertionFree) :
    s.run.answer = t.run.answer.shift base ∧
      Scan.Shifted base t.run.after.scan s.run.after.scan := by
  induction hlen : t.scan.ahead.length using Nat.strongRecOn generalizing s t with
  | _ len ih =>
    subst hlen
    obtain ⟨hanswer, hfollows⟩ := h.next hfree
    generalize ht : t.next = o at hanswer hfollows
    generalize hs : s.next = o' at hanswer hfollows
    obtain ⟨answer, after, events⟩ := o
    obtain ⟨answer', after', events'⟩ := o'
    obtain rfl : answer' = _ := hanswer
    match answer with
    | .error e =>
      rw [run_of_error ht, run_of_error hs]
      exact ⟨rfl, hfollows.shifted⟩
    | .ok none =>
      rw [run_of_none ht, run_of_none hs]
      exact ⟨rfl, hfollows.shifted⟩
    | .ok (some token) =>
      have hlt : after.scan.ahead.length < t.scan.ahead.length := by
        have := length_ahead_next_lt (s := t) (t := token) (by rw [ht])
        rwa [ht] at this
      have hkeeps : after.scanner = t.scanner := by
        have := next_scanner t
        rwa [ht] at this
      obtain ⟨hrest, hlast⟩ := ih _ hlt hfollows (hkeeps ▸ hfree) rfl
      have hstates : after'.scan.states = after.scan.states := hfollows.shifted.states_eq
      rw [run_of_some ht, run_of_some hs, hrest, hstates]
      exact ⟨rfl, hlast⟩

end Follows

end Session

variable [DecidableEq S]

/-- The sessions over a text at all points of their runs: where any requests have led, and in the
middle of a call, where ignored text has been passed over. -/
inductive Scanner.Underway (scanner : Scanner S) (input : String) : Session S → Prop
  | lex : Underway scanner input (scanner.lex input).answer
  | serve {s : Session S} (request : Request) : Underway scanner input s →
    Underway scanner input (s.serve request).after
  | skip {s : Session S} {r : Rule S} {n : Nat} {d : Scan S} : Underway scanner input s →
    s.failure = none → s.scan.step s.scanner = .fired .ignored r n d →
    Underway scanner input { s with scan := d }

namespace Scanner.Underway

variable {scanner : Scanner S} {input : String} {s : Session S}

/-- Requests lead from point to point. -/
theorem serveAll (h : scanner.Underway input s) (requests : List Request) :
    scanner.Underway input (s.serveAll requests).after := by
  induction requests generalizing s with
  | nil => exact h
  | cons request requests ih => exact ih (h.serve request)

theorem scanner_eq (h : scanner.Underway input s) : s.scanner = scanner := by
  induction h with
  | lex => rfl
  | serve request _ ih => exact (Session.keeps_serve request _).1.trans ih
  | skip _ _ _ ih => exact ih

/-- At any of these points, a failure is one of the place where the session stands. -/
theorem standing (h : scanner.Underway input s) : s.Standing := by
  induction h with
  | lex => exact Session.standing_of_not_failed rfl
  | serve request _ ih => exact ih.serve request
  | skip _ hf _ _ => exact Session.standing_of_not_failed hf

/-- At any of these points, the session is within its text. -/
theorem within (h : scanner.Underway input s) : s.scan.Within input := by
  induction h with
  | lex => exact Scan.within_start input []
  | @serve s request h ih =>
    obtain hidle | ⟨-, -, hscan⟩ := Session.serve_idle_or_next request s
    · rwa [hidle]
    · rw [hscan, h.standing.next.2.1]
      exact ih.of_search (Scan.search_token ..)
  | skip _ _ hstep ih => exact ih.of_step hstep

/-- An invariant holds at any of these points. -/
theorem invariant {inv : Scan S → Prop} (h : scanner.Underway input s)
    (hinv : scanner.Invariant inv) : inv s.scan := by
  induction h with
  | lex => exact hinv.start input.toList
  | serve request h ih => exact (h.scanner_eq ▸ hinv).serve ih request
  | skip h _ hstep ih => exact hinv.fired ih (h.scanner_eq ▸ hstep)

end Scanner.Underway

/-- What a session does from some point on, it would also do if it were over the rest of the text
and started with the same stack. -/
theorem Scanner.Underway.follows {scanner : Scanner S} {input : String} {s t : Session S}
    (h : scanner.Underway input s) (hscanner : t.scanner = scanner) (hf : t.failure = none)
    (hscan : t.scan = .start s.scan.ahead s.scan.states) :
    Session.Follows s.scan.position t s where
  scanner_eq := h.scanner_eq.trans hscanner.symm
  shifted := by
    obtain ⟨front, -, -, hposition⟩ := h.within
    rw [hscan]
    refine ⟨rfl, rfl, (Position.shift_origin ?_ ?_).symm, Nat.le_refl 1⟩
    · rw [hposition]
      exact Nat.le_add_right ..
    · rw [hposition]
      exact Nat.le_add_right ..
  standing := Session.standing_of_not_failed hf
  standing' := h.standing

/-- **What is left of a run is the run over what is left of the text**: where no pattern has an
assertion, a session at any point of its runs replies what a session would reply that is started
there over the rest of the text and with the same stack. The positions are those of the rest,
shifted by the position of the point. If the stack is empty, an ordinary session over the rest will
do. -/
theorem Scanner.follows_anew {scanner : Scanner S} (hfree : scanner.AssertionFree) {input : String}
    {s : Session S} (h : scanner.Underway input s) :
    let base := s.scan.position
    let t := s.anew
    (t.scanner = scanner ∧ t.scan = .start t.input.toList s.scan.states ∧ t.failure = none ∧
      ∃ front, textBefore? input.toList base.offset = some front ∧
        input.toList = front ++ t.input.toList) ∧
    (∀ requests,
      let o := s.serveAll requests
      let o' := t.serveAll requests
      o.answer = o'.answer.map (·.shift base) ∧
        o.after.scan.position = o'.after.scan.position.shift base ∧
        o.after.scan.states = o'.after.scan.states) ∧
    (s.run.answer = t.run.answer.shift base ∧
      s.run.after.scan.position = t.run.after.scan.position.shift base ∧
      s.run.after.scan.states = t.run.after.scan.states) ∧
    (s.scan.states = [] →
      s.run.answer = ((scanner.lex t.input).answer.run.answer.shift base)) := by
  intro base t
  have hfollows : Session.Follows base t s := h.follows h.scanner_eq rfl rfl
  have hfree' : t.scanner.AssertionFree := h.scanner_eq ▸ hfree
  refine ⟨⟨h.scanner_eq, ?_, rfl, ?_⟩, ?_, ?_, ?_⟩
  · simp [t, Session.anew]
  · obtain ⟨front, htext, -, hposition⟩ := h.within
    refine ⟨front, ?_, by simpa [t, Session.anew] using htext⟩
    simp only [base, hposition, Position.behind_offset, htext, textBefore?_append]
  · intro requests
    obtain ⟨hreplies, hlast⟩ := hfollows.serveAll requests hfree' rfl
    exact ⟨hreplies, hlast.shifted.position_eq, hlast.shifted.states_eq⟩
  · obtain ⟨hanswer, hlast⟩ := hfollows.run hfree'
    exact ⟨hanswer, hlast.position_eq, hlast.states_eq⟩
  · intro hempty
    have hlex : Session.Follows base (scanner.lex t.input).answer s := by
      refine h.follows rfl rfl ?_
      simp [Scanner.lex, t, Session.anew, hempty]
    exact (hlex.run hfree).1

/-- In the middle of a line and of a block, before the block ends and the scan fails. -/
theorem Scanner.follows_anew_blocks :
    let s := ((blocks.lex "é <ab cd\n>?").answer.serveAll [.next, .item, .next]).after
    (blocks.AssertionFree ∧ blocks.Underway "é <ab cd\n>?" s) ∧
      s.scan.position = ⟨6, 1, 6⟩ ∧ s.scan.states = ["block"] ∧ s.anew.input = " cd\n>?" ∧
      s.run.answer = s.anew.run.answer.shift ⟨6, 1, 6⟩ ∧
      s.anew.run.answer.tokens.map (·.1.position) = [⟨1, 1, 2⟩, ⟨4, 2, 1⟩] ∧
      s.run.answer.tokens.map (·.1.position) = [⟨7, 1, 7⟩, ⟨10, 2, 1⟩] ∧
      s.run.answer.stopped = some (.noMatch ⟨11, 2, 2⟩) := by
  intro s
  have hunderway : blocks.Underway "é <ab cd\n>?" s := .serveAll .lex [.next, .item, .next]
  have hposition : s.scan.position = ⟨6, 1, 6⟩ := by decide +kernel
  obtain ⟨-, -, ⟨hrun, -, -⟩, -⟩ := follows_anew assertionFree_blocks hunderway
  rw [hposition] at hrun
  exact ⟨⟨assertionFree_blocks, hunderway⟩, hposition, by decide +kernel, by decide +kernel, hrun,
    by decide +kernel, by decide +kernel, by decide +kernel⟩

end ScanRules
