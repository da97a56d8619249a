import ScanRules.Proofs.Scan.Walk
import ScanRules.Proofs.Session.Tiling

/-!
# The log of a session

The lines of a log come from different moments of a step, and in another order for ignored rules
than for those that make tokens. Together they tell what a session does, and nothing else.

- `Firing.lines?`: the lines of a rule that fires, told from the whole text. `Firing.log?` puts those
  of several rules one behind the other.
- `Scanner.Logged`: the lines of calls: those of the rules that fire in a call, and one more where it
  finds the text over. A call that fails adds none, and neither do those that repeat its error.
- `Scan.Fired.firing`, `Scan.Walk.trail`: a walk of a scan, seen from the whole text.
- `Scan.Fired.lines?_firing`: what a step reports is what the text says of it.
- `Scan.Search.exists_fired`: a search for a token as a walk with its events.
- `Session.logged_nexts`, `Session.exists_walk_nexts`: calls, as lines and as events.
- `Scanner.logged_nexts_lex`: the log of any number of calls from the start of a text.
-/

namespace ScanRules

variable {S : Type}

/-! ## What a log has to say -/

/-- A line about what goes on step by step. -/
def traceLine (text : String) : String := "TRACE " ++ text

theorem Event.line_of_trace [StateName S] {e : Event S} (h : e.level = .trace) :
    e.line = traceLine e.text := by
  have hlevel : Level.trace.display ++ " " = "TRACE " := rfl
  rw [Event.line, h, hlevel, traceLine]

section Lines

variable [StateName S]

namespace Firing

/-- The line of a changed stack, for rules that pop or push. -/
def stackLines (f : Firing S) : List String :=
  if f.rule.pop ∨ ¬ f.rule.push.isEmpty then
    [traceLine (s!"Rule '{f.rule.name}' changed the state stack to " ++
      StateName.displayAll (f.rule.stackAfter f.place.stack))]
  else []

/-- The line of a span that is left behind, with the line and column of the place behind it. -/
def advancedLine (f : Firing S) (behind : Position) : String :=
  traceLine s!"Advanced over {f.span.display} to line {behind.line}, column {behind.column}"

/-- The lines of a rule that fires. An ignored rule tells first what it skips and then how far it
goes; a rule for tokens first goes on and then tells its token. -/
def lines? (text : String) (f : Firing S) : Option (List String) := do
  let behind ← Position.inText? text.toList f.span.stop
  match f.role with
  | .ignored => do
    let word ← slice? text.toList f.span
    return f.stackLines ++
      [traceLine ("Skipped " ++ quote (String.ofList word) ++ " at " ++ f.span.display),
        f.advancedLine behind]
  | .token => do
    let t ← f.token? text
    return f.stackLines ++
      [f.advancedLine behind, traceLine s!"Matched {t.display} at {t.position.display}"]

/-- The lines of rules that fire one after the other. -/
def log? (text : String) (fired : List (Firing S)) : Option (List String) :=
  (fired.mapM (lines? text)).map List.flatten

theorem log?_cons (text : String) (f : Firing S) (fired : List (Firing S)) :
    log? text (f :: fired) = do
      let lines ← f.lines? text
      let more ← log? text fired
      return lines ++ more :=
  flatten_mapM_cons _ f fired

end Firing

/-- A number of calls in a row, each with its answer and the place after it, and all their lines. -/
inductive Scanner.Logged (scanner : Scanner S) (text : String) :
    Place S → List (Except Error (Option Token) × Place S) → List String → Prop
  | nil {p : Place S} : Logged scanner text p [] []
  | found {p q : Place S} {skipped : List (Firing S)} {f : Firing S} {t : Token}
      {lines more : List String} {replies : List (Except Error (Option Token) × Place S)} :
    scanner.Trail text p (skipped ++ [f]) q → (∀ g ∈ skipped, g.role = .ignored) →
    f.token? text = some t → Firing.log? text (skipped ++ [f]) = some lines →
    Logged scanner text q replies more →
    Logged scanner text p ((.ok (some t), q) :: replies) (lines ++ more)
  | ended {p q : Place S} {skipped : List (Firing S)} {lines more : List String}
      {replies : List (Except Error (Option Token) × Place S)} :
    scanner.Trail text p skipped q → (∀ g ∈ skipped, g.role = .ignored) →
    byteSize text.toList ≤ q.offset → Firing.log? text skipped = some lines →
    Logged scanner text q replies more →
    Logged scanner text p ((.ok none, q) :: replies)
      (lines ++ traceLine "End of input reached" :: more)
  | failed {p q : Place S} {skipped : List (Firing S)} {e : Error} {lines : List String}
      (again : Nat) :
    scanner.Trail text p skipped q → (∀ g ∈ skipped, g.role = .ignored) →
    scanner.Fails text q e → Firing.log? text skipped = some lines →
    Logged scanner text p (List.replicate (again + 1) (.error e, q)) lines

end Lines

namespace Event

/-- The span of an event of going on, with the line and the column behind it. -/
def advanced? : Event S → Option (Span × Nat × Nat)
  | advanced span line column => some (span, line, column)
  | _ => none

/-- The token of an event of a match. -/
def matched? : Event S → Option Token
  | matched t => some t
  | _ => none

end Event

/-! ## Steps -/

namespace Scan

/-- A step, seen from the whole text. -/
def Fired.firing (f : Fired S) : Firing S :=
  ⟨f.role, f.rule, f.source.place, f.source.span f.count⟩

/-- How far a step goes: its span, and the line and the column behind it. -/
def Fired.reach (f : Fired S) : Span × Nat × Nat :=
  (f.firing.span, f.target.position.line, f.target.position.column)

theorem filterMap_stackEvents {α : Type} {g : Event S → Option α}
    (h : ∀ name states, g (.stackChanged name states) = none) (r : Rule S) (d : Scan S) :
    (stackEvents r d).filterMap g = [] := by
  unfold stackEvents
  split
  · exact List.filterMap_cons_none (h _ _)
  · rfl

/-- Of the events of a step, one is that of going on. -/
theorem Fired.filterMap_advanced?_events (f : Fired S) :
    f.events.filterMap Event.advanced? = [f.reach] := by
  obtain ⟨c, role, r, n, d⟩ := f
  have hstack := filterMap_stackEvents (g := Event.advanced?) (fun _ _ => rfl) r d
  cases role with
  | ignored =>
    show (c.skipEvents r n d).filterMap _ = _
    rw [skipEvents, List.filterMap_append, hstack]
    rfl
  | token =>
    show (c.tokenEvents r n d).filterMap _ = _
    rw [tokenEvents, List.filterMap_append, hstack]
    rfl

/-- The only match among the events of a step is that of its token. -/
theorem Fired.filterMap_matched?_events (f : Fired S) :
    f.events.filterMap Event.matched? = (f.token?.map (·.1)).toList := by
  obtain ⟨c, role, r, n, d⟩ := f
  have hstack := filterMap_stackEvents (g := Event.matched?) (fun _ _ => rfl) r d
  cases role with
  | ignored =>
    show (c.skipEvents r n d).filterMap _ = _
    rw [skipEvents, List.filterMap_append, hstack]
    rfl
  | token =>
    show (c.tokenEvents r n d).filterMap _ = _
    rw [tokenEvents, List.filterMap_append, hstack]
    rfl

variable {text : String}

/-- The token of a step is the one that the text gives. -/
theorem Fired.token?_firing {f : Fired S} (hw : f.source.Within text) :
    f.firing.token? text = f.token?.map (·.1) := by
  obtain ⟨c, role, r, n, d⟩ := f
  cases role with
  | ignored => rfl
  | token =>
    have hslice : slice? text.toList (c.span n) = some (c.ahead.take n) := hw.slice?_span n
    have hposition : Position.inText? text.toList c.place.offset = some c.position := hw.inText?
    simp only [Firing.token?, firing, hslice, hposition]
    rfl

variable [DecidableEq S] {scanner : Scanner S} {c d : Scan S} {fired : List (Fired S)}

/-- The stack that a step reports is the one that its rule is to leave. -/
theorem Fired.map_line_stackEvents [StateName S] {f : Fired S}
    (hstep : f.source.step scanner = .fired f.role f.rule f.count f.target) :
    (stackEvents f.rule f.target).map Event.line = f.firing.stackLines := by
  have hstack : f.target.states.reverse = f.firing.rule.stackAfter f.firing.place.stack :=
    stack_of_step hstep
  have hline : (Event.stackChanged f.rule.name f.target.states).line =
      traceLine (s!"Rule '{f.rule.name}' changed the state stack to " ++
        StateName.displayAll f.target.states.reverse) := Event.line_of_trace rfl
  have htouches : f.rule.touches ↔ f.firing.rule.pop ∨ ¬ f.firing.rule.push.isEmpty := by
    simp [StackUse.touches, firing]
  unfold stackEvents Firing.stackLines
  split
  · next h =>
    rw [if_pos (htouches.1 h), List.map_singleton, hline, hstack]
    rfl
  · next h => rw [if_neg (mt htouches.2 h), List.map_nil]

/-- What a step reports is what the text says of it. -/
theorem Fired.lines?_firing [StateName S] {f : Fired S} (hw : f.source.Within text)
    (hstep : f.source.step scanner = .fired f.role f.rule f.count f.target) :
    f.firing.lines? text = some (f.events.map Event.line) := by
  have htoken := token?_firing hw
  have hstack := map_line_stackEvents hstep
  have hslice : slice? text.toList f.firing.span = some (f.source.ahead.take f.count) :=
    hw.slice?_span f.count
  -- the step leads to where its span stops, which is a place within the text, too
  have hbehind : Position.inText? text.toList f.firing.span.stop = some f.target.position := by
    have hstop : f.target.position.offset = f.firing.span.stop := offset_of_step hstep
    rw [← hstop]
    exact (hw.of_step hstep).inText?
  have hadvanced : (f.source.advanceEvent f.count f.target).line =
      f.firing.advancedLine f.target.position := Event.line_of_trace rfl
  unfold Firing.lines?
  rw [hbehind]
  obtain ⟨c, role, r, n, d⟩ := f
  cases role with
  | ignored =>
    have hskipped : (Event.skipped (c.text n) (c.span n) : Event S).line =
        traceLine ("Skipped " ++ quote (c.text n) ++ " at " ++ (c.span n).display) :=
      Event.line_of_trace rfl
    show (do let word ← slice? text.toList _; return _) = some ((c.skipEvents r n d).map _)
    rw [hslice, skipEvents, List.map_append, hstack, List.map_cons, List.map_singleton, hskipped,
      hadvanced]
    rfl
  | token =>
    have hmatched : (Event.matched (c.tokenOf r n) : Event S).line =
        traceLine s!"Matched {(c.tokenOf r n).display} at {(c.tokenOf r n).position.display}" :=
      Event.line_of_trace rfl
    show (do let t ← Firing.token? text _; return _) = some ((c.tokenEvents r n d).map _)
    rw [htoken, tokenEvents, List.map_append, hstack, List.map_cons, List.map_singleton, hmatched,
      hadvanced]
    rfl

/-! ## Steps in a row -/

namespace Walk

/-- A walk within a text, seen from the whole of it. -/
theorem trail (h : Walk scanner c fired d) (hw : c.Within text) :
    scanner.Trail text c.place (fired.map Fired.firing) d.place := by
  induction h with
  | nil => exact .nil
  | cons hstep _ ih =>
    exact .cons (hw.moves_iff.2 ⟨_, _, hstep, rfl, rfl⟩) (ih (hw.of_step hstep))

/-- What a walk reports is what the text says of it. -/
theorem log?_firing [StateName S] (h : Walk scanner c fired d) (hw : c.Within text) :
    Firing.log? text (fired.map Fired.firing) =
      some ((fired.flatMap Fired.events).map Event.line) := by
  induction h with
  | nil => rfl
  | cons hstep _ ih =>
    have hlines := Fired.lines?_firing (f := ⟨_, _, _, _, _⟩) hw hstep
    rw [List.map_cons, Firing.log?_cons, hlines, ih (hw.of_step hstep), List.flatMap_cons,
      List.map_append]
    rfl

/-- A walk ends where its last rule leads. -/
theorem getLastD_target (h : Walk scanner c fired d) {α : Type} (g : Scan S → α) :
    (fired.map fun f => g f.target).getLastD (g c) = g d := by
  induction h with
  | nil => rfl
  | @cons c d last role r n fired _ _ ih =>
    rw [List.map_cons, List.getLastD_cons]
    exact ih

end Walk

/-- A search for a token is a walk. Of its events, one for each step is that of going on, and one is
that of the token. -/
theorem Search.exists_fired {o : Outcome S (Scan S) (Except Error (Option Token))}
    (h : Search scanner c o) :
    ∃ fired, Walk scanner c fired o.after ∧
      o.events.filterMap Event.advanced? = fired.map Fired.reach ∧
      o.events.filterMap Event.matched? = o.answer.toOption.join.toList := by
  induction h with
  | ended | failed => exact ⟨[], .nil, rfl, rfl⟩
  | @found c d r n hstep =>
    have hadvanced := Fired.filterMap_advanced?_events ⟨c, .token, r, n, d⟩
    have hmatched := Fired.filterMap_matched?_events ⟨c, .token, r, n, d⟩
    exact ⟨[⟨c, .token, r, n, d⟩], .cons hstep .nil, hadvanced, hmatched⟩
  | @skipped c d r n o hstep _ ih =>
    obtain ⟨fired, hwalk, hadvanced, hmatched⟩ := ih
    have hadvanced' := Fired.filterMap_advanced?_events ⟨c, .ignored, r, n, d⟩
    have hmatched' := Fired.filterMap_matched?_events ⟨c, .ignored, r, n, d⟩
    refine ⟨⟨c, .ignored, r, n, d⟩ :: fired, .cons hstep hwalk, ?_, ?_⟩
    · show (c.skipEvents r n d ++ o.events).filterMap _ = _
      rw [List.filterMap_append, hadvanced, List.map_cons, ← List.singleton_append, ← hadvanced']
      rfl
    · show (c.skipEvents r n d ++ o.events).filterMap _ = o.answer.toOption.join.toList
      rw [List.filterMap_append, hmatched]
      exact congrArg (· ++ _) hmatched'

end Scan

/-! ## Calls -/

namespace Session

variable [DecidableEq S] {text : String} {s : Session S}

/-- The lines of calls, by induction on their number: a call walks over ignored rules up to the step
that ends it, and a failure is repeated without a word. -/
theorem logged_nexts [StateName S] (n : Nat) (hf : s.failure = none) (hw : s.scan.Within text) :
    s.scanner.Logged text s.place (s.nexts n).answer ((s.nexts n).events.map Event.line) := by
  induction n generalizing s with
  | zero => exact .nil
  | succ n ih =>
    obtain ⟨skipped, d, o, hwalk, hignored, hstops, ho⟩ :=
      (Scan.search_token s.scanner s.scan).exists_walk
    have hdw := hwalk.within hw
    have htrail : s.scanner.Trail text s.place (skipped.map Scan.Fired.firing) d.place :=
      hwalk.trail hw
    have hroles : ∀ g ∈ skipped.map Scan.Fired.firing, g.role = .ignored :=
      List.forall_mem_map.2 hignored
    have hanswer : (s.scan.token s.scanner).answer = o.answer := by
      rw [ho, Outcome.afterEvents_answer]
    rw [nexts_succ, List.map_append]
    cases hstops with
    | ended hstep =>
      have hrest := @ih { s with scan := d } hf hdw
      have hended : (Event.ended : Event S).line = traceLine "End of input reached" :=
        Event.line_of_trace rfl
      have hover := hdw.size_le_offset_iff.2 (Scan.step_eq_ended_iff.1 hstep)
      rw [next_of_ok hf hanswer, ho]
      have hlogged := Scanner.Logged.ended htrail hroles hover (hwalk.log?_firing hw) hrest
      simpa [Outcome.afterEvents, hended, place] using hlogged
    | failed hstep =>
      rw [next_of_error hf hanswer, ho, nexts_of_failure rfl]
      have hlogged := Scanner.Logged.failed n htrail hroles (hdw.fails_iff.2 hstep)
        (hwalk.log?_firing hw)
      simpa [Outcome.afterEvents, List.replicate_succ, place] using hlogged
    | @found e r k hstep =>
      have hrest := @ih { s with scan := e } hf (hdw.of_step hstep)
      have hall := hwalk.append (.cons hstep .nil)
      have hlog := hall.log?_firing hw
      have htoken := Scan.Fired.token?_firing (f := ⟨d, .token, r, k, e⟩) hdw
      have htrail' := hall.trail hw
      rw [List.map_append, List.map_singleton] at hlog htrail'
      rw [next_of_ok hf hanswer, ho]
      have hlogged := Scanner.Logged.found htrail' hroles htoken hlog hrest
      simpa [Outcome.afterEvents, Scan.Fired.events, place] using hlogged

/-- Calls are a walk, one behind the other. -/
theorem exists_walk_nexts (s : Session S) (n : Nat) :
    ∃ fired, Scan.Walk s.scanner s.scan fired (s.nexts n).after.scan ∧
      (s.nexts n).events.filterMap Event.advanced? = fired.map Scan.Fired.reach ∧
      (s.nexts n).events.filterMap Event.matched? =
        (s.nexts n).answer.filterMap fun reply => reply.1.toOption.join := by
  induction n generalizing s with
  | zero => exact ⟨[], .nil, rfl, rfl⟩
  | succ n ih =>
    cases hf : s.failure with
    | some e =>
      rw [nexts_of_failure hf]
      refine ⟨[], .nil, rfl, ?_⟩
      rw [List.filterMap_replicate_of_none rfl]
      rfl
    | none =>
      obtain ⟨first, hwalk, hadvanced, hmatched⟩ :=
        (Scan.search_token s.scanner s.scan).exists_fired
      obtain ⟨rest, hwalk', hadvanced', hmatched'⟩ := ih s.next.after
      rw [next_scanner] at hwalk'
      rw [next_of_search hf] at hwalk' hadvanced' hmatched'
      refine ⟨first ++ rest, ?_, ?_, ?_⟩
      · rw [nexts_succ, next_of_search hf]
        exact hwalk.append hwalk'
      · rw [nexts_succ, List.filterMap_append, List.map_append, next_of_search hf, hadvanced,
          hadvanced']
      · rw [nexts_succ, List.filterMap_append, next_of_search hf, hmatched, hmatched',
          List.filterMap_cons]
        cases (s.scan.token s.scanner).answer.toOption.join <;> rfl

end Session

/-- **The log is a faithful trace**: the lines of any number of calls from the start of a text are
those of the rules that fire in them, and one for each answer that nothing is left. So the spans
that the lines go on over tile the text up to the place of the session, the last of them tells its
line and column, and the matches are the tokens that are answered. -/
theorem Scanner.logged_nexts_lex [DecidableEq S] [StateName S] (scanner : Scanner S)
    (input : String) (n : Nat) :
    let o := (scanner.lex input).answer.nexts n
    let reached := o.events.filterMap Event.advanced?
    scanner.Logged input ⟨0, []⟩ o.answer (o.events.map Event.line) ∧
      Tiles 0 (reached.map (·.1)) o.after.place.offset ∧
      (reached.map (·.2)).getLastD (1, 1) =
        (o.after.scan.position.line, o.after.scan.position.column) ∧
      o.events.filterMap Event.matched? = o.answer.filterMap fun reply => reply.1.toOption.join := by
  intro o reached
  have hwithin := (Session.sound_lex scanner input).within
  obtain ⟨fired, hwalk, hadvanced, hmatched⟩ := (scanner.lex input).answer.exists_walk_nexts n
  have hreached : reached = fired.map Scan.Fired.reach := hadvanced
  refine ⟨Session.logged_nexts n rfl hwithin, ?_, ?_, hmatched⟩
  · have htiles := (hwalk.trail hwithin).tiles
    rw [List.map_map] at htiles
    rw [hreached, List.map_map]
    exact htiles
  · have hlast := hwalk.getLastD_target fun c => (c.position.line, c.position.column)
    rw [hreached, List.map_map]
    exact hlast

end ScanRules
