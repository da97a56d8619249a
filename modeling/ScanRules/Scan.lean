import ScanRules.Scanner

/-!
# Scanning a text

- `Scan`: a place in a text that is being scanned, and the stack of states there.
- `Scan.fire`: what a rule does that has matched.
- `Scan.skip`: passes over the matches of ignored rules, until none of them fires.
- `Scan.token`: passes over what is ignored and then finds one token.

Ignored rules come first, and after each match they are tried again from the first one on; then
the other rules are tried once. In both cases the first rule that may be tried and matches is the
one that fires. A rule that cannot fire, because it takes a state from an empty stack, ends the
scan, and nothing of what it would have done takes place.
-/

namespace ScanRules

/-- A place in a text: the character in front of it, the text from there on, its position, and the
stack of states, the top first. -/
structure Scan (S : Type) where
  before : Option Char := none
  ahead : List Char
  position : Position := .origin
  states : List S := []

namespace Scan

variable {S : Type}

/-- The start of a text. -/
def start (text : List Char) (states : List S) : Scan S := { ahead := text, states }

/-- The place after the next `n` characters, with another stack. -/
def advance (c : Scan S) (n : Nat) (states : List S) : Scan S :=
  { before := (c.ahead.take n).getLast?.or c.before
    ahead := c.ahead.drop n
    position := c.position.advance (c.ahead.take n)
    states }

/-- The next `n` characters. -/
def text (c : Scan S) (n : Nat) : String := String.ofList (c.ahead.take n)

/-- Where the next `n` characters are. -/
def span (c : Scan S) (n : Nat) : Span :=
  ⟨c.position.offset, c.position.offset + byteSize (c.ahead.take n)⟩

/-- The place after a rule that has matched `n` characters. -/
def fire (c : Scan S) (r : Rule S) (n : Nat) : Except Error (Scan S) :=
  match r.transition? c.states with
  | some states => .ok (c.advance n states)
  | none => .error (.underflow r.name c.position)

theorem fire_eq_ok {c d : Scan S} {r : Rule S} {n : Nat} (h : c.fire r n = .ok d) :
    ∃ states, r.transition? c.states = some states ∧ d = c.advance n states := by
  unfold fire at h
  split at h
  · next states hs => exact ⟨states, hs, (Except.ok.inj h).symm⟩
  · cases h

theorem length_ahead_of_fire {c d : Scan S} {r : Rule S} {n : Nat} (h : c.fire r n = .ok d) :
    d.ahead.length = c.ahead.length - n := by
  obtain ⟨states, -, rfl⟩ := fire_eq_ok h
  simp [advance]

/-- The event of a changed stack, if the rule changes it. -/
def stackEvents (r : Rule S) (d : Scan S) : List (Event S) :=
  if r.touches then [.stackChanged r.name d.states] else []

/-- The event of reaching the place `d` over the next `n` characters. -/
def advanceEvent (c : Scan S) (n : Nat) (d : Scan S) : Event S :=
  .advanced (c.span n) d.position.line d.position.column

/-- The events of passing over the next `n` characters. -/
def skipEvents (c : Scan S) (r : Rule S) (n : Nat) (d : Scan S) : List (Event S) :=
  stackEvents r d ++ [.skipped (c.text n) (c.span n), c.advanceEvent n d]

/-- The token that a rule makes of the next `n` characters. -/
def tokenOf (c : Scan S) (r : Rule S) (n : Nat) : Token := ⟨r.name, c.text n, c.position⟩

/-- The events of making a token of the next `n` characters. -/
def tokenEvents (c : Scan S) (r : Rule S) (n : Nat) (d : Scan S) : List (Event S) :=
  stackEvents r d ++ [c.advanceEvent n d, .matched (c.tokenOf r n)]

variable [DecidableEq S]

/-- The rule of a list that fires here. -/
def firing? (c : Scan S) (rules : List (Rule S)) : Option (Rule S × Nat) :=
  Rule.firing? rules c.states c.before c.ahead

/-- Passes over the matches of ignored rules. -/
def skip (ignored : List (Rule S)) (c : Scan S) : Outcome S (Scan S) (Except Error Unit) :=
  if _ : c.ahead = [] then ⟨.ok (), c, []⟩
  else
    match _ : c.firing? ignored with
    | none => ⟨.ok (), c, []⟩
    | some (r, n) =>
      match _ : c.fire r n with
      | .error e => ⟨.error e, c, []⟩
      | .ok d => (skip ignored d).afterEvents (c.skipEvents r n d)
termination_by c.ahead.length
decreasing_by
  rename_i hc hr hd
  have := Rule.pos_of_firing? hr
  have := List.length_pos_iff.2 hc
  rw [length_ahead_of_fire hd]
  omega

/-- Finds the token that starts here. -/
def here (rules : List (Rule S)) (c : Scan S) :
    Outcome S (Scan S) (Except Error (Option Token)) :=
  if c.ahead = [] then ⟨.ok none, c, [.ended]⟩
  else
    match c.firing? rules with
    | none => ⟨.error (.noMatch c.position), c, []⟩
    | some (r, n) =>
      match c.fire r n with
      | .error e => ⟨.error e, c, []⟩
      | .ok d => ⟨.ok (some (c.tokenOf r n)), d, c.tokenEvents r n d⟩

/-- Finds the next token. -/
def token (scanner : Scanner S) (c : Scan S) :
    Outcome S (Scan S) (Except Error (Option Token)) :=
  let o := c.skip scanner.ignored
  match o.answer with
  | .error e => ⟨.error e, o.after, o.events⟩
  | .ok () => (here scanner.rules o.after).afterEvents o.events

/-- Skipping never goes back. -/
theorem length_ahead_skip_le (ignored : List (Rule S)) (c : Scan S) :
    (c.skip ignored).after.ahead.length ≤ c.ahead.length := by
  fun_induction skip ignored c with
  | case1 | case2 | case3 => exact Nat.le_refl _
  | case4 c _ r n _ d hd ih =>
    refine Nat.le_trans ih ?_
    rw [length_ahead_of_fire hd]
    exact Nat.sub_le ..

/-- A token takes up text. -/
theorem length_ahead_token_lt {scanner : Scanner S} {c : Scan S} {t : Token}
    (h : (c.token scanner).answer = .ok (some t)) :
    (c.token scanner).after.ahead.length < c.ahead.length := by
  have hle := length_ahead_skip_le scanner.ignored c
  unfold token at h ⊢
  generalize c.skip scanner.ignored = o at h hle ⊢
  obtain ⟨answer, e, events⟩ := o
  cases answer with
  | error => cases h
  | ok =>
    simp only [Outcome.afterEvents_answer, Outcome.afterEvents_after] at h hle ⊢
    unfold here at h ⊢
    split at h
    · cases h
    · next hne =>
      rw [if_neg hne]
      split at h
      · cases h
      · next r n hr =>
        split at h
        · cases h
        · next d hd =>
          have := Rule.pos_of_firing? hr
          have := List.length_pos_iff.2 hne
          have := length_ahead_of_fire hd
          show d.ahead.length < _
          omega

end Scan

end ScanRules
