import ScanRules.Proofs.Scan.Local
import ScanRules.Proofs.Session.Run

/-!
# Texts that are cut off

Where no pattern has an assertion, a text can be cut off behind anything that a rule has taken, and
its front part is scanned as before.

- `Scan.cut`, `Scan.Fired.cut`: scans and steps of a text without its last characters.
- `Scan.step_cut`, `Scan.Walk.cut`: the steps up to the cut are the same.
- `Scan.Walk.course_cut`, `Scan.Walk.filter_tokens`: what is in front of a place that a walk leads
  to.
- `Scanner.run_lex_cut`: the run over the front part.
-/

namespace ScanRules

variable {S : Type}

namespace Scan

/-- The scan of a text without its last `k` characters. -/
def cut (k : Nat) (c : Scan S) : Scan S := { c with ahead := c.ahead.rdrop k }

/-- A rule that fires, without the last `k` characters of the text. -/
def Fired.cut (k : Nat) (f : Fired S) : Fired S :=
  { f with source := f.source.cut k, target := f.target.cut k }

variable [DecidableEq S] {scanner : Scanner S} {c d last : Scan S} {role : Role} {r : Rule S}
  {n k : Nat} {fired rest : List (Fired S)} {stopped : Option Error}

omit [DecidableEq S] in
/-- A token stops where the span that it is made of stops. -/
theorem stop_of_token? {f : Fired S} {t : Token × List S} (ht : f.token? = some t) :
    t.1.span.stop = (f.source.span f.count).stop := by
  unfold Fired.token? at ht
  split at ht
  · cases ht
  · obtain rfl := Option.some.inj ht
    simp [tokenOf, Token.span, text, span]

/-- A step that leaves `k` characters is the same without them, and so is its token. -/
theorem step_cut (h : scanner.AssertionFree) (hstep : c.step scanner = .fired role r n d)
    (hk : k ≤ d.ahead.length) :
    (c.cut k).step scanner = .fired role r n (d.cut k) ∧
      (c.cut k).tokenOf r n = c.tokenOf r n := by
  have hle := le_length_of_step hstep
  obtain ⟨hne, hchoice, hfire⟩ := step_eq_fired_iff.1 hstep
  obtain ⟨rules, hr⟩ := firing?_of_choice? hchoice
  have hpos := Rule.pos_of_firing? hr
  rw [length_ahead_of_fire hfire] at hk
  obtain ⟨states, hstates, rfl⟩ := fire_eq_ok hfire
  -- what is taken is in front of the cut
  have hfront : n ≤ (c.ahead.rdrop k).length := by
    rw [List.rdrop, List.length_take]
    omega
  have htake : (c.ahead.rdrop k).take n = c.ahead.take n := by
    rw [List.rdrop, List.take_take, Nat.min_eq_left (by omega)]
  have hdrop : (c.ahead.rdrop k).drop n = (c.ahead.drop n).rdrop k := by
    rw [List.rdrop, List.rdrop, List.drop_take, List.length_drop, Nat.sub_right_comm]
  have hsplit : c.ahead = c.ahead.rdrop k ++ c.ahead.drop (c.ahead.length - k) :=
    (List.take_append_drop _ _).symm
  have hcut : (c.cut k).advance n states = (c.advance n states).cut k := by
    simp only [advance, cut, htake, hdrop]
  have hstates' : r.transition? (c.cut k).states = some states := hstates
  constructor
  · refine step_eq_fired_iff.2 ⟨?_, h.choice?_of_append hsplit hchoice hfront, ?_⟩
    · exact List.length_pos_iff.1 (Nat.lt_of_lt_of_le hpos hfront)
    · simp only [fire, hstates', hcut]
  · show Token.mk _ (String.ofList ((c.ahead.rdrop k).take n)) _ = _
    rw [htake]
    rfl

namespace Walk

/-- A walk that leaves `k` characters is the same without them, by induction on its steps. -/
theorem cut (h : scanner.AssertionFree) (hwalk : Walk scanner c fired last)
    (hk : k ≤ last.ahead.length) :
    Walk scanner (c.cut k) (fired.map (·.cut k)) (last.cut k) ∧
      (fired.map (·.cut k)).filterMap (·.token?) = fired.filterMap (·.token?) := by
  induction hwalk with
  | nil => exact ⟨.nil, rfl⟩
  | @cons c d last role r n rest hstep hrest ih =>
    obtain ⟨hcut, htokens⟩ := ih hk
    have hle := hrest.length_add_le
    obtain ⟨hstep', htoken⟩ := step_cut h hstep (k := k) (by omega)
    refine ⟨.cons hstep' hcut, ?_⟩
    have hfirst : (Fired.cut k ⟨c, role, r, n, d⟩).token? =
        (⟨c, role, r, n, d⟩ : Fired S).token? := by
      cases role with
      | ignored => rfl
      | token => exact congrArg (fun t => some (t, d.states)) htoken
    rw [List.map_cons, List.filterMap_cons, List.filterMap_cons, hfirst, htokens]

/-- The tokens of a walk stop between its ends. -/
theorem stop_of_mem_tokens (h : Walk scanner c fired d) {t : Token × List S}
    (ht : t ∈ fired.filterMap (·.token?)) :
    c.position.offset < t.1.span.stop ∧ t.1.span.stop ≤ d.position.offset := by
  obtain ⟨f, hf, ht⟩ := List.mem_filterMap.1 ht
  rw [stop_of_token? ht, ← offset_of_step (h.step_of_mem hf)]
  exact h.between.2 f hf

/-- Up to the end of a walk, the text has the walk as its whole course. -/
theorem course_cut (h : scanner.AssertionFree) (hwalk : Walk scanner c fired last) :
    Course scanner (c.cut last.ahead.length) (fired.map (·.cut last.ahead.length))
      (last.cut last.ahead.length) none := by
  have hended : (last.cut last.ahead.length).step scanner = .ended := by
    rw [step_eq_ended_iff]
    simp [Scan.cut, List.rdrop]
  have hcourse := (hwalk.cut h (Nat.le_refl _)).1.course (.ended hended)
  rwa [List.append_nil] at hcourse

/-- Of two walks, one behind the other, the first one has the tokens that stop where it ends or
earlier. -/
theorem filter_tokens {taken : List (Fired S)} (hwalk : Walk scanner c taken d)
    (hrest : Walk scanner d rest last) :
    ((taken ++ rest).filterMap (·.token?)).filter (·.1.span.stop ≤ d.position.offset) =
      taken.filterMap (·.token?) := by
  have hkept : (taken.filterMap (·.token?)).filter (·.1.span.stop ≤ d.position.offset) =
      taken.filterMap (·.token?) :=
    List.filter_eq_self.2 fun t ht => decide_eq_true (hwalk.stop_of_mem_tokens ht).2
  have hdropped : (rest.filterMap (·.token?)).filter (·.1.span.stop ≤ d.position.offset) = [] := by
    refine List.filter_eq_nil_iff.2 fun t ht => ?_
    rw [decide_eq_true_eq, Nat.not_le]
    exact (hrest.stop_of_mem_tokens ht).1
  rw [List.filterMap_append, List.filter_append, hkept, hdropped, List.append_nil]

end Walk

end Scan

/-- **Cut off behind anything that has been taken, a text is scanned as before**: where no pattern
has an assertion, take the front part of a text up to the end of a span that a rule has taken, be it
an ignored one. The run over this part has the tokens of the whole run that stop there or earlier,
ends without an error, and leaves the position and the stack that the whole run had there. -/
theorem Scanner.run_lex_cut [DecidableEq S] {scanner : Scanner S} (hfree : scanner.AssertionFree)
    {input : String} {fired : List (Scan.Fired S)} {last : Scan S} {stopped : Option Error}
    (hcourse : Scan.Course scanner (.start input.toList []) fired last stopped) :
    let full := (scanner.lex input).answer.run
    (full.answer = ⟨fired.filterMap (·.token?), stopped⟩ ∧ full.after.scan = last ∧
      full.events = fired.flatMap (·.events) ++ if stopped = none then [.ended] else []) ∧
    ∀ f ∈ fired, ∃ front, textBefore? input.toList (f.source.span f.count).stop = some front ∧
      let o := (scanner.lex (String.ofList front)).answer.run
      o.answer =
        ⟨full.answer.tokens.filter (·.1.span.stop ≤ (f.source.span f.count).stop), none⟩ ∧
      o.after.scan.position = f.target.position ∧ o.after.scan.states = f.target.states := by
  intro full
  have hfull : full = _ := Session.run_eq_of_course hcourse rfl rfl rfl
  have hanswer : full.answer = ⟨fired.filterMap (·.token?), stopped⟩ :=
    congrArg Outcome.answer hfull
  refine ⟨⟨hanswer, by rw [hfull], by rw [hfull]⟩, ?_⟩
  intro f hf
  obtain ⟨taken, rest, rfl, hwalk, hrest⟩ := hcourse.exists_walks hf
  have hstop := Scan.offset_of_step (hcourse.exists_walk.1.step_of_mem hf)
  -- the front part of the text is what is behind the place that the step leads to
  obtain ⟨front, htext, -, hposition⟩ := hwalk.within (Scan.within_start input [])
  have hfront : textBefore? input.toList (f.source.span f.count).stop = some front := by
    rw [← hstop, hposition, Position.behind_offset, htext, textBefore?_append]
  have hstart : (Scan.start input.toList [] : Scan S).cut f.target.ahead.length =
      .start front [] := by
    simp [Scan.start, Scan.cut, htext, List.rdrop]
  have hcut := hwalk.course_cut hfree
  rw [hstart] at hcut
  obtain ⟨hanswer', hlast⟩ := Session.run_of_course hcut
    (s := (scanner.lex (String.ofList front)).answer) rfl (by simp [Scanner.lex]) rfl
  refine ⟨front, hfront, ?_, (congrArg Scan.position hlast :), (congrArg Scan.states hlast :)⟩
  rw [hanswer', hanswer, (hwalk.cut hfree (Nat.le_refl _)).2, ← hstop, hwalk.filter_tokens hrest]

/-- The whole run fails at the line feed outside the block. Up to the word inside, it does not. -/
theorem Scanner.run_lex_cut_blocks :
    let full := (blocks.lex "é <\nab >\nc").answer.run
    let o := (blocks.lex "é <\nab").answer.run
    blocks.AssertionFree ∧ full.answer.stopped = some (.noMatch ⟨9, 2, 5⟩) ∧
      full.answer.tokens.length = 4 ∧ o.answer = ⟨full.answer.tokens.take 3, none⟩ ∧
      o.after.scan.position = ⟨7, 2, 3⟩ ∧ o.after.scan.states = ["block"] := by
  intro full o
  have htoken : (⟨"WORD", "ab", ⟨5, 2, 1⟩⟩, ["block"]) ∈ full.answer.tokens := by decide +kernel
  obtain ⟨fired, last, stopped, hcourse⟩ :=
    Scan.exists_course blocks (.start "é <\nab >\nc".toList [])
  obtain ⟨⟨hanswer, -, -⟩, hcut⟩ := run_lex_cut assertionFree_blocks hcourse
  -- the rule that makes the token of the word
  have hmade : full.answer.tokens = fired.filterMap (·.token?) := congrArg Run.tokens hanswer
  obtain ⟨f, hf, hf'⟩ := List.mem_filterMap.1 (hmade ▸ htoken)
  have hstop : (f.source.span f.count).stop = 7 := (Scan.stop_of_token? hf').symm
  obtain ⟨front, hfront, hrun, -, -⟩ := hcut f hf
  rw [hstop] at hfront hrun
  have hfront' : textBefore? "é <\nab >\nc".toList 7 = some "é <\nab".toList := by decide +kernel
  obtain rfl := Option.some.inj (hfront.symm.trans hfront')
  have hkept : full.answer.tokens.filter (·.1.span.stop ≤ 7) = full.answer.tokens.take 3 := by
    decide +kernel
  refine ⟨assertionFree_blocks, by decide +kernel, by decide +kernel, ?_, by decide +kernel,
    by decide +kernel⟩
  exact hrun.trans (congrArg (Run.mk · none) hkept)

end ScanRules
