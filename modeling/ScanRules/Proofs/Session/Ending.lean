import ScanRules.Proofs.Scan.Walk
import ScanRules.Proofs.Session.Items

/-!
# Scanning comes to an end

Nothing in the two loops counts how often they go round. They end because a rule that fires takes up
at least one character, whatever its pattern may match and whatever it does to the stack.

- `Scan.Walk.length_le_of_start`: no more rules fire on the way through a text than it has
  characters.
- `Session.exists_walk_run`: a run is a walk to the end of the text or to an error.
- `Scanner.length_walk_le_lex`: the loops, the calls, the run and the sequence of items from the
  start of a text.
-/

namespace ScanRules

variable {S : Type} [DecidableEq S]

theorem Scan.Walk.length_le_of_start {scanner : Scanner S} {text : String} {states : List S}
    {fired : List (Fired S)} {d : Scan S} (h : Walk scanner (start text.toList states) fired d) :
    fired.length ≤ text.length := by
  have hle : fired.length + d.ahead.length ≤ text.toList.length := h.length_add_le
  rw [String.length_toList] at hle
  omega

/-- A run walks to where the text is over or the scan fails, and its tokens are made on the way. -/
theorem Session.exists_walk_run {s : Session S} (hf : s.failure = none) :
    ∃ fired, Scan.Walk s.scanner s.scan fired s.run.after.scan ∧
      s.run.answer.tokens = fired.filterMap (·.token?) ∧
      s.run.after.scan.step s.scanner = .last s.run.answer.stopped := by
  obtain ⟨fired, last, stopped, hcourse⟩ := Scan.exists_course s.scanner s.scan
  obtain ⟨hwalk, hlast⟩ := hcourse.exists_walk
  obtain ⟨hanswer, hafter⟩ := Session.run_of_course hcourse rfl rfl hf
  rw [hanswer, hafter]
  exact ⟨fired, hwalk, rfl, hlast⟩

/-- **Scanning comes to an end**: from the start of a text, rules cannot go on firing forever. Let
them fire one after the other for as long as one likes: each of them leads on in the text, and there
are no more of them than the text has characters. Wherever they lead, to pass over what is ignored
is to walk over more ignored rules until there is a reason to stop, and a call for a token ends
behind such a walk with one more step. The whole run is a walk to where the text is over or the scan
fails. Asked for item after item, the session gives the tokens of the run, no more than there are
characters, then its error if it has one, and from then on nothing. -/
theorem Scanner.length_walk_le_lex (scanner : Scanner S) (input : String) :
    let s := (scanner.lex input).answer
    (¬ ∃ chain : Nat → Scan S, chain 0 = s.scan ∧
      ∀ i, ∃ role r n, (chain i).step scanner = .fired role r n (chain (i + 1))) ∧
    (∀ fired d, Scan.Walk scanner s.scan fired d →
      fired.length ≤ input.length ∧
      (∀ f ∈ fired, f.source.position.offset < f.target.position.offset) ∧
      (∃ skipped, Scan.Walk scanner d skipped (d.skip scanner.ignored).after ∧
        (∀ f ∈ skipped, f.role = .ignored) ∧
        Scan.SkipStops scanner (d.skip scanner.ignored).after (d.skip scanner.ignored).answer) ∧
      ∃ skipped last o, Scan.Walk scanner d skipped last ∧ (∀ f ∈ skipped, f.role = .ignored) ∧
        Scan.Stops scanner last o ∧
        d.token scanner = o.afterEvents (skipped.flatMap Scan.Fired.events)) ∧
    (∃ fired, Scan.Walk scanner s.scan fired s.run.after.scan ∧
      s.run.answer.tokens = fired.filterMap (·.token?) ∧
      s.run.after.scan.step scanner = .last s.run.answer.stopped) ∧
    s.run.answer.tokens.length ≤ input.length ∧
    ∀ n, (s.serveAll (List.replicate (s.run.answer.items.length + n) .item)).answer =
      s.run.answer.items.map (fun i => .item (some i)) ++ List.replicate n (.item none) := by
  intro s
  obtain ⟨fired, hwalk, htokens, hlast⟩ := Session.exists_walk_run (s := s) rfl
  refine ⟨?_, ?_, ⟨fired, hwalk, htokens, hlast⟩, ?_, ?_⟩
  · rintro ⟨chain, hstart, hchain⟩
    -- one more rule than there are characters is too many
    obtain ⟨fired, hwalk, hlength⟩ := Scan.Walk.exists_of_chain hchain (input.length + 1)
    rw [hstart] at hwalk
    have hle : fired.length ≤ input.length := hwalk.length_le_of_start
    omega
  · intro fired d hwalk
    refine ⟨hwalk.length_le_of_start, hwalk.offset_lt, Scan.exists_walk_skip scanner d, ?_⟩
    exact (Scan.search_token scanner d).exists_walk
  · calc s.run.answer.tokens.length
        = (fired.filterMap (·.token?)).length := by rw [htokens]
      _ ≤ fired.length := List.length_filterMap_le ..
      _ ≤ input.length := hwalk.length_le_of_start
  · exact Session.serveAll_replicate_item rfl

/-- Rules that can match nothing at all and never stop pushing. -/
def Scanner.growing : Scanner String :=
  (Builder.empty.addRuleSet
    { rules := [{ name := "X", pattern := "x*", push := ["token", "token"] }]
      ignored := [{ pattern := " *", push := ["blank"] }] }).after.scanner

/-- Two tokens of a text of seven characters, and the error behind them. -/
theorem Scanner.length_walk_le_growing :
    let s := (growing.lex "x  xx y").answer
    (∃ fired, Scan.Walk growing s.scan fired s.run.after.scan ∧
      fired.length ≤ 7 ∧ (∀ f ∈ fired, f.source.position.offset < f.target.position.offset) ∧
      s.run.answer.tokens = fired.filterMap (·.token?)) ∧
    s.run.after.scan.states = ["blank", "token", "token", "blank", "token", "token"] ∧
    (s.serveAll (List.replicate 5 .item)).answer =
      [.item (some (.ok ⟨"X", "x", ⟨0, 1, 1⟩⟩)), .item (some (.ok ⟨"X", "xx", ⟨3, 1, 4⟩⟩)),
        .item (some (.error (.noMatch ⟨6, 1, 7⟩))), .item none, .item none] := by
  intro s
  obtain ⟨-, hwalks, ⟨fired, hwalk, htokens, -⟩, -, hitems⟩ :=
    length_walk_le_lex growing "x  xx y"
  obtain ⟨hlength, hoffset, -⟩ := hwalks fired _ hwalk
  have hrun : s.run.answer.items = [.ok ⟨"X", "x", ⟨0, 1, 1⟩⟩, .ok ⟨"X", "xx", ⟨3, 1, 4⟩⟩,
      .error (.noMatch ⟨6, 1, 7⟩)] := by decide +kernel
  have hfive : s.serveAll (List.replicate 5 .item) =
      s.serveAll (List.replicate (s.run.answer.items.length + 2) .item) := by rw [hrun]; rfl
  refine ⟨⟨fired, hwalk, hlength, hoffset, htokens⟩, by decide +kernel, ?_⟩
  rw [hfive, hitems 2, hrun]
  rfl

end ScanRules
