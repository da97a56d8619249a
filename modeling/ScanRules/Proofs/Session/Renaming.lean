import Mathlib.Data.Set.Function
import ScanRules.Proofs.Session.Live

/-!
# Renaming states and tokens

Lexer states are compared with the top of the stack and with nothing else, and names of rules are
not looked at. So other states could be used, as long as different ones stay different, and tokens
could have any names.

- `Rule.renamed`, `Scanner.renamed`: rules and scanners with other states and other names. Ignored
  rules keep their names.
- `Rule.firing?_renamed`: the same rule fires where the states on the stack are renamed with it.
- `Scan.renamed`, `Scan.naming`: a place with other states, and how the name is changed that stands
  in an error of this place.
- `Scan.step_renamed`, `Scan.Search.renamed`, `Scan.Course.renamed`: one step, a search for a token,
  and all steps of a scan.
- `Session.renamed`, `Session.serveAll_renamed`: a session with other states, and what it replies.
- `Scanner.lex_renamed`: sessions and runs on every text.
-/

namespace ScanRules

variable {S S' : Type} {f : S → S'} {g : String → String}

/-! ## Rules -/

/-- How a rule depends on the stack, with other states. -/
def StackUse.renamed (f : S → S') (u : StackUse S) : StackUse S' where
  state := u.state.map f
  pop := u.pop
  push := u.push.map f

/-- A rule with other states and another name. -/
def Rule.renamed (f : S → S') (g : String → String) (r : Rule S) : Rule S' :=
  { r.toStackUse.renamed f with name := g r.name, pattern := r.pattern }

/-- Names are only changed of rules that make tokens. -/
def Role.naming (g : String → String) : Role → String → String
  | .token => g
  | .ignored => id

/-- A scanner with other states and with other names for tokens. -/
def Scanner.renamed (f : S → S') (g : String → String) (scanner : Scanner S) : Scanner S' where
  rules := scanner.rules.map (·.renamed f (Role.token.naming g))
  ignored := scanner.ignored.map (·.renamed f (Role.ignored.naming g))

/-- The states that rules need or put on the stack. -/
def Rule.states (rules : List (Rule S)) : List S :=
  rules.flatMap fun r => r.state.toList ++ r.push

/-- The states of a scanner. -/
def Scanner.states (scanner : Scanner S) : List S := Rule.states scanner.tried

theorem Rule.mem_states_of_state {rules : List (Rule S)} {r : Rule S} {s : S} (hr : r ∈ rules)
    (hs : r.state = some s) : s ∈ states rules :=
  List.mem_flatMap.2 ⟨r, hr, List.mem_append_left _ (Option.mem_toList.2 hs)⟩

theorem Rule.mem_states_of_push {rules : List (Rule S)} {r : Rule S} {s : S} (hr : r ∈ rules)
    (hs : s ∈ r.push) : s ∈ states rules :=
  List.mem_flatMap.2 ⟨r, hr, List.mem_append_right _ hs⟩

/-- Where all states on the stack have been put there by live rules, they are states of the
scanner. -/
theorem Scanner.LiveStack.subset_states {scanner : Scanner S} {c : Scan S}
    (h : scanner.LiveStack c) : c.states ⊆ scanner.states := by
  intro s hs
  obtain ⟨q, hq, hpush⟩ := h s hs
  exact Rule.mem_states_of_push hq.mem_tried hpush

/-- After a match the stack is renamed as before it. -/
theorem StackUse.transition?_renamed (u : StackUse S) (states : List S) :
    (u.renamed f).transition? (states.map f) = (u.transition? states).map (List.map f) := by
  obtain ⟨state, pop, push⟩ := u
  match pop, states with
  | true, [] => rfl
  | true, _ :: _ | false, _ => simp [transition?, renamed]

section Firing

variable [DecidableEq S] [DecidableEq S'] {known states : List S}

/-- A rule may be tried if it may be tried without renaming: this is where different states have to
stay different. -/
theorem StackUse.eligible_renamed (hf : Set.InjOn f {s | s ∈ known}) {u : StackUse S}
    (hu : ∀ s, u.state = some s → s ∈ known) (hstates : states ⊆ known) :
    (u.renamed f).eligible (states.map f) = u.eligible states := by
  have hu' : (u.renamed f).state = u.state.map f := rfl
  cases hs : u.state with
  | none => rw [eligible, eligible, hu', hs]; rfl
  | some s =>
    rw [eligible, eligible, hu', hs]
    cases states with
    | nil => rfl
    | cons t below =>
      have hinj : f t = f s ↔ t = s := hf.eq_iff (hstates List.mem_cons_self) (hu s hs)
      simp [hinj]

/-- The same rule fires. -/
theorem Rule.firing?_renamed (hf : Set.InjOn f {s | s ∈ known}) {rules : List (Rule S)}
    (hrules : ∀ r ∈ rules, ∀ s, r.state = some s → s ∈ known) (hstates : states ⊆ known)
    (before : Option Char) (text : List Char) :
    firing? (rules.map (·.renamed f g)) (states.map f) before text =
      (firing? rules states before text).map fun x => (x.1.renamed f g, x.2) := by
  induction rules with
  | nil => rfl
  | cons r rules ih =>
    obtain ⟨hr, hrest⟩ := List.forall_mem_cons.1 hrules
    have heligible : (r.renamed f g).eligible (states.map f) = r.eligible states :=
      StackUse.eligible_renamed hf hr hstates
    have hreach : (r.renamed f g).reach before text = r.reach before text := rfl
    obtain ⟨n, he, hn⟩ | hnone := r.exists_reach_or states before text
    · rw [List.map_cons, firing?_cons_of_some he hn,
        firing?_cons_of_some (heligible.trans he) (hreach.trans hn), Option.map_some]
    · have hnone' : (r.renamed f g).eligible (states.map f) →
          (r.renamed f g).reach before text = none := fun he => hnone (heligible ▸ he)
      rw [List.map_cons, firing?_cons_of_none hnone, firing?_cons_of_none hnone', ih hrest]

end Firing

/-! ## Answers -/

/-- A token with another name. -/
def Token.renamed (g : String → String) (t : Token) : Token := { t with name := g t.name }

/-- An error with another name for the rule that it is about. -/
def Error.renamed (g : String → String) : Error → Error
  | .underflow rule position => .underflow (g rule) position
  | .noMatch position => .noMatch position
  | .syntaxFault pattern fault => .syntaxFault pattern fault
  | .tooHeavy => .tooHeavy

/-- An answer with names for tokens changed by `g` and those in errors by `h`. -/
def renamedAnswer (g h : String → String) :
    Except Error (Option Token) → Except Error (Option Token)
  | .ok found => .ok (found.map (·.renamed g))
  | .error e => .error (e.renamed h)

/-- A reply with names changed in this way. -/
def Reply.renamed (g h : String → String) : Reply → Reply
  | next answer => next (renamedAnswer g h answer)
  | item none => item none
  | item (some (.ok t)) => item (some (.ok (t.renamed g)))
  | item (some (.error e)) => item (some (.error (e.renamed h)))

/-- A run with other states and with names changed in this way. -/
def Run.renamed (f : S → S') (g h : String → String) (r : Run S) : Run S' where
  tokens := r.tokens.map fun t => (t.1.renamed g, t.2.map f)
  stopped := r.stopped.map (·.renamed h)

variable {h h' : String → String}

theorem itemOf_renamedAnswer (answer : Except Error (Option Token)) :
    Reply.item (itemOf (renamedAnswer g h answer)) = (Reply.item (itemOf answer)).renamed g h := by
  match answer with
  | .ok none | .ok (some _) | .error _ => rfl

theorem Session.failureOf_renamedAnswer (answer : Except Error (Option Token)) :
    failureOf (renamedAnswer g h answer) = (failureOf answer).map (·.renamed h) := by
  match answer with
  | .ok _ | .error _ => rfl

theorem Reply.endsItems_renamed (reply : Reply) :
    (reply.renamed g h).endsItems = reply.endsItems := by
  match reply with
  | .next _ | .item none | .item (some (.ok _)) | .item (some (.error _)) => rfl

/-- Where a reply is no error, it does not matter how names in errors are changed. -/
theorem Reply.renamed_congr {reply : Reply} (hnone : reply.error? = none) :
    reply.renamed g h = reply.renamed g h' := by
  match reply with
  | .next (.ok _) | .item none | .item (some (.ok _)) => rfl
  | .next (.error _) | .item (some (.error _)) => cases hnone

/-! ## Steps -/

namespace Scan

/-- A place with other states on the stack. -/
def renamed (f : S → S') (c : Scan S) : Scan S' where
  before := c.before
  ahead := c.ahead
  position := c.position
  states := c.states.map f

theorem fire_renamed_of_ok {c d : Scan S} {r : Rule S} {n : Nat} (hd : c.fire r n = .ok d) :
    (c.renamed f).fire (r.renamed f g) n = .ok (d.renamed f) := by
  obtain ⟨states, hstates, rfl⟩ := fire_eq_ok hd
  have hrenamed : (r.renamed f g).transition? (c.renamed f).states = some (states.map f) := by
    have := r.transition?_renamed (f := f) c.states
    rwa [hstates] at this
  rw [fire, hrenamed]
  rfl

theorem fire_renamed_of_error {c : Scan S} {r : Rule S} {n : Nat} {e : Error}
    (he : c.fire r n = .error e) :
    (c.renamed f).fire (r.renamed f g) n = .error (e.renamed g) := by
  obtain ⟨hstates, rfl⟩ := fire_eq_error he
  have hrenamed : (r.renamed f g).transition? (c.renamed f).states = none := by
    have := r.transition?_renamed (f := f) c.states
    rwa [hstates] at this
  rw [fire, hrenamed]
  rfl

/-- A step with other states and names. -/
def Step.renamed (f : S → S') (g h : String → String) : Step S → Step S'
  | .ended => .ended
  | .failed e => .failed (e.renamed h)
  | .fired role r n d => .fired role (r.renamed f (role.naming g)) n (d.renamed f)

/-- What fires, with other states and names. -/
def Fired.renamed (f : S → S') (g : String → String) (x : Fired S) : Fired S' where
  source := x.source.renamed f
  role := x.role
  rule := x.rule.renamed f (x.role.naming g)
  count := x.count
  target := x.target.renamed f

variable [DecidableEq S]

/-- How the name is changed that stands in an error of this place: it is the name of the rule that is
chosen here. -/
def naming (scanner : Scanner S) (g : String → String) (c : Scan S) : String → String :=
  match c.choice? scanner with
  | some (role, _, _) => role.naming g
  | none => id

variable [DecidableEq S'] {scanner : Scanner S} {c last : Scan S}

/-- The same rule is chosen. -/
theorem choice?_renamed (hf : Set.InjOn f {s | s ∈ scanner.states})
    (hc : c.states ⊆ scanner.states) :
    (c.renamed f).choice? (scanner.renamed f g) =
      (c.choice? scanner).map fun x => (x.1, x.2.1.renamed f (x.1.naming g), x.2.2) := by
  have hneeds : ∀ r ∈ scanner.tried, ∀ s, r.state = some s → s ∈ scanner.states :=
    fun r hr s hs => Rule.mem_states_of_state hr hs
  have hignored : (c.renamed f).firing? (scanner.renamed f g).ignored =
      (c.firing? scanner.ignored).map fun x => (x.1.renamed f (Role.ignored.naming g), x.2) :=
    Rule.firing?_renamed hf (fun r hr => hneeds r (List.mem_append_left _ hr)) hc ..
  have hrules : (c.renamed f).firing? (scanner.renamed f g).rules =
      (c.firing? scanner.rules).map fun x => (x.1.renamed f (Role.token.naming g), x.2) :=
    Rule.firing?_renamed hf (fun r hr => hneeds r (List.mem_append_right _ hr)) hc ..
  rw [choice?, choice?, hignored, hrules]
  cases c.firing? scanner.ignored with
  | some found => rfl
  | none => cases c.firing? scanner.rules <;> rfl

/-- One step with other states and names is the step without, renamed. -/
theorem step_renamed (hf : Set.InjOn f {s | s ∈ scanner.states})
    (hc : c.states ⊆ scanner.states) {step : Step S} (hstep : c.step scanner = step) :
    (c.renamed f).step (scanner.renamed f g) = step.renamed f g (c.naming scanner g) := by
  have hahead : (c.renamed f).ahead = c.ahead := rfl
  have hchosen := choice?_renamed (g := g) hf hc
  cases step with
  | ended => exact step_eq_ended_iff.2 (hahead.trans (step_eq_ended_iff.1 hstep))
  | failed e =>
    obtain ⟨hne, ⟨hnone, rfl⟩ | ⟨role, r, n, hchoice, hfire⟩⟩ := step_eq_failed_iff.1 hstep
    · rw [hnone] at hchosen
      exact step_eq_failed_iff.2 ⟨hahead ▸ hne, .inl ⟨hchosen, rfl⟩⟩
    · rw [hchoice] at hchosen
      have hnaming : c.naming scanner g = role.naming g := by rw [naming, hchoice]
      rw [hnaming]
      exact step_eq_failed_iff.2
        ⟨hahead ▸ hne, .inr ⟨role, _, n, hchosen, fire_renamed_of_error hfire⟩⟩
  | fired role r n d =>
    obtain ⟨hne, hchoice, hfire⟩ := step_eq_fired_iff.1 hstep
    rw [hchoice] at hchosen
    exact step_eq_fired_iff.2 ⟨hahead ▸ hne, hchosen, fire_renamed_of_ok hfire⟩

/-- A search for a token, by induction on its steps: the states on the stack remain states of the
scanner. -/
theorem Search.renamed (hf : Set.InjOn f {s | s ∈ scanner.states}) (g : String → String)
    {o : Outcome S (Scan S) (Except Error (Option Token))} (hsearch : Search scanner c o)
    (hc : scanner.LiveStack c) :
    let o' := (c.renamed f).token (scanner.renamed f g)
    o'.answer = renamedAnswer g (o.after.naming scanner g) o.answer ∧
      o'.after = o.after.renamed f := by
  induction hsearch with
  | @ended c hstep =>
    rw [token_of_ended (step_renamed hf hc.subset_states hstep)]
    exact ⟨rfl, rfl⟩
  | @failed c e hstep =>
    rw [token_of_failed (step_renamed hf hc.subset_states hstep)]
    exact ⟨rfl, rfl⟩
  | @found c d r n hstep =>
    rw [token_of_token (step_renamed hf hc.subset_states hstep)]
    exact ⟨rfl, rfl⟩
  | @skipped c d r n o hstep _ ih =>
    rw [token_of_ignored (step_renamed hf hc.subset_states hstep)]
    exact ih (scanner.invariant_liveStack.fired hc hstep)

/-- All steps of a scan. -/
theorem Course.renamed (hf : Set.InjOn f {s | s ∈ scanner.states}) (g : String → String)
    {fired : List (Fired S)} {stopped : Option Error}
    (hcourse : Course scanner c fired last stopped) (hc : scanner.LiveStack c) :
    Course (scanner.renamed f g) (c.renamed f) (fired.map (·.renamed f g)) (last.renamed f)
      (stopped.map (·.renamed (last.naming scanner g))) := by
  induction hcourse with
  | ended hstep => exact .ended (step_renamed hf hc.subset_states hstep)
  | failed hstep => exact .failed (step_renamed hf hc.subset_states hstep)
  | fired hstep _ ih =>
    refine .fired (step_renamed hf hc.subset_states hstep) ?_
    exact ih (scanner.invariant_liveStack.fired hc hstep)

omit [DecidableEq S] [DecidableEq S'] in
theorem Fired.token?_renamed (x : Fired S) :
    (x.renamed f g).token? = x.token?.map fun t => (t.1.renamed g, t.2.map f) := by
  obtain ⟨source, role, rule, count, target⟩ := x
  cases role <;> rfl

end Scan

/-! ## Sessions -/

namespace Session

variable [DecidableEq S] [DecidableEq S'] {s : Session S}

/-- A session with other states and with other names for tokens. -/
def renamed (f : S → S') (g : String → String) (s : Session S) : Session S' where
  scanner := s.scanner.renamed f g
  input := s.input
  scan := s.scan.renamed f
  failure := s.failure.map (·.renamed (s.scan.naming s.scanner g))
  finished := s.finished

/-- One call. -/
theorem next_renamed (hf : Set.InjOn f {q | q ∈ s.scanner.states}) (g : String → String)
    (hs : s.scanner.LiveStack s.scan) :
    let naming := s.next.after.scan.naming s.scanner g
    (s.renamed f g).next.answer = renamedAnswer g naming s.next.answer ∧
      (s.renamed f g).next.after = s.next.after.renamed f g := by
  cases hfailure : s.failure with
  | some e =>
    have hfailure' : (s.renamed f g).failure =
        some (e.renamed (s.scan.naming s.scanner g)) := by
      rw [renamed, hfailure, Option.map_some]
    rw [next_of_failure hfailure, next_of_failure hfailure']
    exact ⟨rfl, rfl⟩
  | none =>
    have hfailure' : (s.renamed f g).failure = none := by
      rw [renamed, hfailure, Option.map_none]
    obtain ⟨hanswer, hafter⟩ := (Scan.search_token s.scanner s.scan).renamed hf g hs
    rw [next_of_search hfailure, next_of_search hfailure']
    refine ⟨hanswer, ?_⟩
    simp only [renamed, hanswer, hafter, failureOf_renamedAnswer]

/-- One request. -/
theorem serve_renamed (hf : Set.InjOn f {q | q ∈ s.scanner.states}) (g : String → String)
    (hs : s.scanner.LiveStack s.scan) (request : Request) :
    let o := s.serve request
    ((s.renamed f g).serve request).answer =
        o.answer.renamed g (o.after.scan.naming s.scanner g) ∧
      ((s.renamed f g).serve request).after = o.after.renamed f g := by
  obtain ⟨hanswer, hafter⟩ := next_renamed hf g hs
  cases request with
  | next => exact ⟨congrArg Reply.next hanswer, hafter⟩
  | item =>
    simp only [serve]
    cases hfinished : s.finished with
    | true =>
      have hfinished' : (s.renamed f g).finished = true := hfinished
      rw [item_of_finished hfinished, item_of_finished hfinished']
      exact ⟨rfl, rfl⟩
    | false =>
      have hfinished' : (s.renamed f g).finished = false := hfinished
      rw [item_of_not_finished hfinished, item_of_not_finished hfinished', hanswer, hafter,
        itemOf_renamedAnswer, Reply.endsItems_renamed]
      exact ⟨rfl, rfl⟩

/-- A session that has failed stays where it is. -/
theorem scan_serveAll_of_failure {e : Error} (requests : List Request) :
    ∀ {s : Session S}, s.failure = some e → (s.serveAll requests).after.scan = s.scan := by
  induction requests with
  | nil => exact fun _ => rfl
  | cons request requests ih =>
    intro s hfailure
    have hfailure' := (failure_serve_iff request s).2 (.inl hfailure)
    refine (ih hfailure').trans ?_
    obtain hidle | ⟨-, -, hscan⟩ := serve_idle_or_next request s
    · rw [hidle]
    · rw [hscan, next_of_failure hfailure]

/-- Any requests, by induction. Only the last of the places that they lead to can be that of an
error. -/
theorem serveAll_renamed (g : String → String) (requests : List Request) :
    ∀ {s : Session S}, Set.InjOn f {q | q ∈ s.scanner.states} → s.scanner.LiveStack s.scan →
      let o := s.serveAll requests
      ((s.renamed f g).serveAll requests).answer =
          o.answer.map (·.renamed g (o.after.scan.naming s.scanner g)) ∧
        ((s.renamed f g).serveAll requests).after = o.after.renamed f g := by
  induction requests with
  | nil => exact fun _ _ => ⟨rfl, rfl⟩
  | cons request requests ih =>
    intro s hf hs
    obtain ⟨hanswer, hafter⟩ := serve_renamed hf g hs request
    have hkeeps : (s.serve request).after.scanner = s.scanner := (keeps_serve request s).1
    obtain ⟨hrest, hlast⟩ := ih (s := (s.serve request).after) (hkeeps ▸ hf)
      (hkeeps ▸ s.scanner.invariant_liveStack.serve hs request)
    rw [hkeeps] at hrest
    simp only [serveAll, hafter, hrest, hlast, List.map_cons, List.cons.injEq, and_true]
    rw [hanswer]
    cases herror : (s.serve request).answer.error? with
    | none => exact Reply.renamed_congr herror
    | some e =>
      -- the session has failed, and so it is still at the place of the error
      have hfailure := (failure_serve_iff request s).2 (.inr herror)
      rw [scan_serveAll_of_failure requests hfailure]

end Session

variable [DecidableEq S] [DecidableEq S']

/-- **States and names are only labels**: let other states be used, such that different states of the
scanner stay different, and any other names for tokens. Then on every text the same requests have the
same replies, with the same texts and positions, except that tokens have their other names; the
stack has the other states; and if there is an error, it is the same at the same position, with the
other name of the rule if it is about a rule that makes tokens. So it is with runs. -/
theorem Scanner.lex_renamed {scanner : Scanner S} (hf : Set.InjOn f {s | s ∈ scanner.states})
    (g : String → String) (input : String) :
    let s := (scanner.lex input).answer
    let s' := ((scanner.renamed f g).lex input).answer
    (∀ requests,
      let o := s.serveAll requests
      let o' := s'.serveAll requests
      o'.answer = o.answer.map (·.renamed g (o.after.scan.naming scanner g)) ∧
        o'.after = o.after.renamed f g) ∧
    let last := s.run.after.scan
    s'.run.answer = s.run.answer.renamed f g (last.naming scanner g) ∧
      s'.run.after.scan = last.renamed f := by
  intro s s'
  have hs : scanner.LiveStack s.scan := scanner.invariant_liveStack.start input.toList
  refine ⟨fun requests => Session.serveAll_renamed g requests (s := s) hf hs, ?_⟩
  obtain ⟨fired, last, stopped, hcourse⟩ := Scan.exists_course scanner s.scan
  obtain ⟨hanswer, hlast⟩ := Session.run_of_course hcourse (s := s) rfl rfl rfl
  obtain ⟨hanswer', hlast'⟩ :=
    Session.run_of_course (hcourse.renamed hf g hs) (s := s') rfl rfl rfl
  rw [hanswer, hanswer', hlast, hlast', List.filterMap_map]
  refine ⟨?_, rfl⟩
  simp only [Run.renamed, List.map_filterMap, Function.comp_def, Scan.Fired.token?_renamed]

/-- Words in angle brackets, which a dot may end at any time, and so may an ignored mark. -/
def Scanner.tagged : Scanner String :=
  (Builder.empty.addRuleSet
    { rules := [{ name := "WORD", pattern := "[a-z]+" },
        { name := "OPEN", pattern := "<", push := ["text", "tag"] },
        { name := "CLOSE", pattern := ">", state := some "tag", pop := true },
        { name := "DOT", pattern := "[.]", pop := true }]
      ignored := [{ pattern := " +" }, { pattern := "!", pop := true }] }).after.scanner

/-- With numbers for states. A dot too many is reported with the other name of its rule, a mark too
many without a name. -/
theorem Scanner.lex_renamed_tagged :
    let f : String → Int64 := fun s => if s = "tag" then 7 else -1
    let g : String → String := fun name => "T_" ++ name
    let o' := ((tagged.renamed f g).lex "<a> b..").answer.serveAll [.next, .item, .next, .next]
    let run' := ((tagged.renamed f g).lex "<a> b..").answer.run
    let marked' := ((tagged.renamed f g).lex "a ! b").answer.run
    Set.InjOn f {s | s ∈ tagged.states} ∧
      o'.answer.filterMap (fun reply => reply.token?.map fun t => (t.name, t.position)) =
        [("T_OPEN", ⟨0, 1, 1⟩), ("T_WORD", ⟨1, 1, 2⟩), ("T_CLOSE", ⟨2, 1, 3⟩),
          ("T_WORD", ⟨4, 1, 5⟩)] ∧
      o'.after.scan.states = [-1] ∧
      run'.answer.stopped = some (.underflow "T_DOT" ⟨6, 1, 7⟩) ∧
      marked'.answer.tokens.map (·.1.name) = ["T_WORD"] ∧
      marked'.answer.stopped = some (.underflow "" ⟨2, 1, 3⟩) := by
  intro f g o' run' marked'
  have hdistinct : ∀ s ∈ tagged.states, ∀ t ∈ tagged.states, f s = f t → s = t := by
    decide +kernel
  have hf : Set.InjOn f {s | s ∈ tagged.states} := fun s hs t ht => hdistinct s hs t ht
  obtain ⟨hreplies, hrun, -⟩ := lex_renamed hf g "<a> b.."
  obtain ⟨hanswer, hafter⟩ := hreplies [.next, .item, .next, .next]
  obtain ⟨-, hmarked, -⟩ := lex_renamed hf g "a ! b"
  refine ⟨hf, ?_, ?_, ?_, ?_, ?_⟩
  · rw [show o'.answer = _ from hanswer]
    decide +kernel
  · rw [show o'.after = _ from hafter]
    decide +kernel
  · rw [show run'.answer = _ from hrun]
    decide +kernel
  · rw [show marked'.answer = _ from hmarked]
    decide +kernel
  · rw [show marked'.answer = _ from hmarked]
    decide +kernel

end ScanRules
