import ScanRules.Proofs.Position
import ScanRules.Proofs.Scan.Local

/-!
# Scans of the rest of a text

A scan that starts in the middle of a text counts offsets, lines and columns from there. Where no
pattern has an assertion, that is all that tells it from the scan of the whole text.

- `Position.shift`: where a position of the rest is in the whole text. Columns change in the first
  line only.
- `Position.advance_shift`: to shift and to advance may be done in either order.
- `Token.shift`, `Error.shift`: tokens and errors of the rest, seen in the whole text.
- `Scan.Shifted`: two scans with the same text ahead and the same stack, one shifted.
- `Scan.Shifted.step`, `Scan.Shifted.token`: they take the same steps and find the same tokens.
-/

namespace ScanRules

namespace Position

/-- The position in a whole text of a position in the rest of it from `base` on. -/
def shift (p base : Position) : Position where
  offset := p.offset + base.offset
  line := p.line + (base.line - 1)
  column := if p.line = 1 then p.column + (base.column - 1) else p.column

/-- The rest of a text starts at its base. -/
theorem shift_origin {base : Position} (hline : 1 ≤ base.line) (hcolumn : 1 ≤ base.column) :
    origin.shift base = base := by
  obtain ⟨offset, line, column⟩ := base
  replace hline : 1 ≤ line := hline
  replace hcolumn : 1 ≤ column := hcolumn
  simp only [shift, origin, if_true, mk.injEq]
  omega

/-- To shift and to advance may be done in either order. -/
theorem advance_shift (base : Position) {p : Position} (h : 1 ≤ p.line) (text : List Char) :
    (p.shift base).advance text = (p.advance text).shift base := by
  by_cases hmem : '\n' ∈ text
  · -- what follows the line feed is no longer in the first line
    have hcount : 0 < text.count '\n' := List.count_pos_iff.2 hmem
    have hlater : ¬ p.line + text.count '\n' = 1 := by omega
    simp only [advance_of_mem _ hmem, shift, if_neg hlater, mk.injEq, and_true]
    omega
  · simp only [advance_of_not_mem _ hmem, shift, mk.injEq, true_and]
    split <;> omega

/-- Advancing never goes back to an earlier line. -/
theorem line_le_advance (p : Position) (text : List Char) : p.line ≤ (p.advance text).line := by
  rw [advance_line]
  exact Nat.le_add_right ..

end Position

/-- A token of the rest of a text, seen in the whole text. -/
def Token.shift (base : Position) (t : Token) : Token :=
  { t with position := t.position.shift base }

/-- An error of the rest of a text, seen in the whole text. -/
def Error.shift (base : Position) : Error → Error
  | noMatch position => noMatch (position.shift base)
  | underflow rule position => underflow rule (position.shift base)
  | syntaxFault pattern fault => syntaxFault pattern fault
  | tooHeavy => tooHeavy

/-- An answer about the rest of a text, seen in the whole text. -/
def shiftAnswer (base : Position) : Except Error (Option Token) → Except Error (Option Token)
  | .ok found => .ok (found.map (·.shift base))
  | .error e => .error (e.shift base)

variable {S : Type}

namespace Scan

/-- The second scan is in the whole text where the first one is in the rest of it from `base` on. -/
structure Shifted (base : Position) (c c' : Scan S) : Prop where
  ahead_eq : c'.ahead = c.ahead
  states_eq : c'.states = c.states
  position_eq : c'.position = c.position.shift base
  line_pos : 1 ≤ c.position.line

namespace Shifted

variable {base : Position} {c c' d : Scan S}

theorem tokenOf (h : Shifted base c c') (r : Rule S) (n : Nat) :
    c'.tokenOf r n = (c.tokenOf r n).shift base := by
  simp only [Scan.tokenOf, Token.shift, text, h.ahead_eq, h.position_eq]

theorem advance (h : Shifted base c c') (n : Nat) (states : List S) :
    Shifted base (c.advance n states) (c'.advance n states) where
  ahead_eq := congrArg (List.drop n) h.ahead_eq
  states_eq := rfl
  position_eq := by
    simp only [Scan.advance, h.ahead_eq, h.position_eq, Position.advance_shift base h.line_pos]
  line_pos := Nat.le_trans h.line_pos (Position.line_le_advance ..)

/-- A rule does the same to both, and if it fails, it fails with the same error. -/
theorem fire (h : Shifted base c c') (r : Rule S) (n : Nat) :
    (∃ d d', c.fire r n = .ok d ∧ c'.fire r n = .ok d' ∧ Shifted base d d') ∨
      ∃ e, c.fire r n = .error e ∧ c'.fire r n = .error (e.shift base) := by
  simp only [Scan.fire, h.states_eq]
  cases r.transition? c.states with
  | some states => exact .inl ⟨_, _, rfl, rfl, h.advance n states⟩
  | none =>
    rw [h.position_eq]
    exact .inr ⟨_, rfl, rfl⟩

end Shifted

/-- Steps of the rest of a text and of the whole text that go together. -/
inductive Step.Shifted (base : Position) : Step S → Step S → Prop
  | ended : Shifted base .ended .ended
  | failed (e : Error) : Shifted base (.failed e) (.failed (e.shift base))
  | fired {role : Role} {r : Rule S} {n : Nat} {d d' : Scan S} : Scan.Shifted base d d' →
    Shifted base (.fired role r n d) (.fired role r n d')

namespace Step.Shifted

variable {base : Position} {e : Error} {role : Role} {r : Rule S} {n : Nat} {d : Scan S}
  {step : Step S}

theorem eq_ended (h : Shifted base .ended step) : step = .ended := by
  cases h
  rfl

theorem eq_failed (h : Shifted base (.failed e) step) : step = .failed (e.shift base) := by
  cases h
  rfl

theorem exists_fired (h : Shifted base (.fired role r n d) step) :
    ∃ d', step = .fired role r n d' ∧ Scan.Shifted base d d' := by
  cases h with
  | fired hd => exact ⟨_, rfl, hd⟩

end Step.Shifted

variable [DecidableEq S] {base : Position} {scanner : Scanner S} {c c' : Scan S}

/-- The two scans take the same step. -/
theorem Shifted.step (h : Shifted base c c') (hfree : scanner.AssertionFree) :
    Step.Shifted base (c.step scanner) (c'.step scanner) := by
  have hchoice : c'.choice? scanner = c.choice? scanner :=
    hfree.choice?_eq h.ahead_eq h.states_eq
  simp only [Scan.step, h.ahead_eq, hchoice]
  split
  · exact .ended
  · cases c.choice? scanner with
    | none =>
      rw [h.position_eq]
      exact .failed (.noMatch c.position)
    | some choice =>
      obtain ⟨role, r, n⟩ := choice
      obtain ⟨d, d', hd, hd', hshifted⟩ | ⟨e, he, he'⟩ := h.fire r n
      · simp only [hd, hd']
        exact .fired hshifted
      · simp only [he, he']
        exact .failed e

/-- A search in the rest of the text and the one in the whole text find the same, by induction on
the steps. -/
theorem Search.shifted (hfree : scanner.AssertionFree)
    {o : Outcome S (Scan S) (Except Error (Option Token))} (hsearch : Search scanner c o) :
    ∀ {c' : Scan S}, Shifted base c c' →
      (c'.token scanner).answer = shiftAnswer base o.answer ∧
        Shifted base o.after (c'.token scanner).after := by
  induction hsearch with
  | ended hstep =>
    intro c' h
    have hstep' := (hstep ▸ h.step hfree).eq_ended
    rw [token_of_ended hstep']
    exact ⟨rfl, h⟩
  | failed hstep =>
    intro c' h
    have hstep' := (hstep ▸ h.step hfree).eq_failed
    rw [token_of_failed hstep']
    exact ⟨rfl, h⟩
  | found hstep =>
    intro c' h
    obtain ⟨d', hstep', hd⟩ := (hstep ▸ h.step hfree).exists_fired
    rw [token_of_token hstep', h.tokenOf]
    exact ⟨rfl, hd⟩
  | skipped hstep _ ih =>
    intro c' h
    obtain ⟨d', hstep', hd⟩ := (hstep ▸ h.step hfree).exists_fired
    rw [token_of_ignored hstep']
    exact ih hd

/-- The two scans find the same token and come to the same place. -/
theorem Shifted.token (h : Shifted base c c') (hfree : scanner.AssertionFree) :
    (c'.token scanner).answer = shiftAnswer base (c.token scanner).answer ∧
      Shifted base (c.token scanner).after (c'.token scanner).after :=
  (search_token scanner c).shifted hfree h

end Scan

end ScanRules
