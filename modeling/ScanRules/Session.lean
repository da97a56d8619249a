import ScanRules.Scan

/-!
# Sessions

A session scans one text, call by call.

- `Session`: a scanner, a text, and how far the scan has come.
- `Session.next`: the next token. Once it has failed, it gives the same error again and again.
- `Session.item`: the next item of the session seen as a sequence, which ends after its first error.
- `Session.items`, `Session.collect`: what is left of this sequence.
- `Session.run`: calls `next` until the text ends or the scan fails.
-/

namespace ScanRules

/-- A scan in progress. `failure` is the error that has ended it, and `finished` says that the
sequence of its items is over. -/
structure Session (S : Type) where
  scanner : Scanner S
  input : String
  scan : Scan S
  failure : Option Error := none
  finished : Bool := false

/-- The tokens of a whole run, each with the stack after it, and what has ended the run unless it
was the end of the text. -/
structure Run (S : Type) where
  tokens : List (Token × List S)
  stopped : Option Error

/-- A new session over a text. -/
def Scanner.lex {S : Type} (scanner : Scanner S) (input : String) :
    Outcome S (Scanner S) (Session S) :=
  ⟨{ scanner, input, scan := .start input.toList [] }, scanner,
    [.starting (byteSize input.toList)]⟩

namespace Session

variable {S : Type} [DecidableEq S]

/-- The next token, or nothing at the end of the text. -/
def next (s : Session S) : Outcome S (Session S) (Except Error (Option Token)) :=
  match s.failure with
  | some e => ⟨.error e, s, []⟩
  | none =>
    let o := s.scan.token s.scanner
    match o.answer with
    | .ok token? => ⟨.ok token?, { s with scan := o.after }, o.events⟩
    | .error e => ⟨.error e, { s with scan := o.after, failure := some e }, o.events⟩

theorem length_ahead_next_lt {s : Session S} {t : Token} (h : s.next.answer = .ok (some t)) :
    s.next.after.scan.ahead.length < s.scan.ahead.length := by
  unfold next at h ⊢
  split at h
  · cases h
  · simp only at h ⊢
    split at h
    · next token? ha =>
      obtain rfl := Except.ok.inj h
      exact Scan.length_ahead_token_lt ha
    · cases h

/-- The next item. -/
def item (s : Session S) : Outcome S (Session S) (Option (Except Error Token)) :=
  if s.finished then ⟨none, s, []⟩
  else
    let o := s.next
    match o.answer with
    | .ok (some t) => ⟨some (.ok t), o.after, o.events⟩
    | .ok none => ⟨none, { o.after with finished := true }, o.events⟩
    | .error e => ⟨some (.error e), { o.after with finished := true }, o.events⟩

theorem length_ahead_item_lt {s : Session S} {t : Token} (h : s.item.answer = some (.ok t)) :
    s.item.after.scan.ahead.length < s.scan.ahead.length := by
  unfold item at h ⊢
  split at h
  · cases h
  · next hf =>
    rw [if_neg hf]
    simp only at h ⊢
    split at h
    · next u hu => exact length_ahead_next_lt hu
    · cases h
    · cases h

/-- All items that are left. -/
def items (s : Session S) : Outcome S (Session S) (List (Except Error Token)) :=
  let o := s.item
  match _ : o.answer with
  | none => ⟨[], o.after, o.events⟩
  | some (.error e) => ⟨[.error e], o.after, o.events⟩
  | some (.ok t) =>
    let rest := o.after.items
    ⟨.ok t :: rest.answer, rest.after, o.events ++ rest.events⟩
termination_by s.scan.ahead.length
decreasing_by
  rename_i h
  exact length_ahead_item_lt h

/-- The tokens that are left, or the first error. -/
def collect (s : Session S) : Outcome S (Session S) (Except Error (List Token)) :=
  let o := s.items
  ⟨o.answer.mapM id, o.after, o.events⟩

/-- Scans the text to its end, or up to an error. -/
def run (s : Session S) : Outcome S (Session S) (Run S) :=
  let o := s.next
  match _ : o.answer with
  | .error e => ⟨⟨[], some e⟩, o.after, o.events⟩
  | .ok none => ⟨⟨[], none⟩, o.after, o.events⟩
  | .ok (some t) =>
    let rest := o.after.run
    ⟨{ rest.answer with tokens := (t, o.after.scan.states) :: rest.answer.tokens }, rest.after,
      o.events ++ rest.events⟩
termination_by s.scan.ahead.length
decreasing_by
  rename_i h
  exact length_ahead_next_lt h

end Session

end ScanRules
