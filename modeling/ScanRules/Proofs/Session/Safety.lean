import ScanRules.Proofs.Checked.Scan
import ScanRules.Proofs.Session.Positions

/-!
# Nothing goes wrong in a session

A session cuts its text at offsets and adds up sizes, lines and columns, and nothing of this is
guarded. None of it can go wrong, because of where the session stands.

- `Session.next?`: a call with every cut and every sum checked.
- `Session.Safe`: where a session stands, and that its next call passes all checks.
- `Session.Sound.safe`: what requests leave is safe.
- `Scanner.safe_serveAll_lex`: so is a session, whatever it has been asked for.
-/

namespace ScanRules

variable {S : Type} [DecidableEq S]

namespace Session

/-- The next token, and the spot behind it. There is no result where a span cannot be cut out of
the text, or where a sum is over the limit. -/
def next? (limit : Nat) (s : Session S) :
    Option (Except Error (Option Token) × Checked.Spot S) :=
  match s.failure with
  | some e => some (.error e, s.scan.spot)
  | none => Checked.token? limit s.scanner s.input s.scan.spot

/-- A session that stands at a position of its text and can be called there. -/
structure Safe (s : Session S) : Prop where
  /-- The offset is not beyond the text. -/
  offset_le : s.scan.position.offset ≤ s.input.utf8ByteSize
  /-- The offset is not inside of a character. -/
  isValid : String.Pos.Raw.IsValid s.input ⟨s.scan.position.offset⟩
  line_pos : 1 ≤ s.scan.position.line
  column_pos : 1 ≤ s.scan.position.column
  /-- Lines and columns are not more than the bytes passed over. -/
  line_add_column_le :
    s.scan.position.line - 1 + (s.scan.position.column - 1) ≤ s.scan.position.offset
  /-- An error that is kept is one of the position where the session stands. -/
  position?_failure : ∀ e, s.failure = some e → e.position? = some s.scan.position
  /-- The items are over only where the session has failed or come to the end. -/
  of_finished : s.finished → s.failure ≠ none ∨ s.scan.position.offset = s.input.utf8ByteSize
  /-- No check fails in the next call if the limit is above the size of the text. -/
  next?_eq : ∀ limit, s.input.utf8ByteSize < limit →
    s.next? limit = some (s.next.answer, s.next.after.scan.spot)

namespace Sound

variable {s : Session S}

/-- The next call passes all checks, and it does what it does without them. -/
theorem next?_eq (h : s.Sound s.input) {limit : Nat} (hlimit : s.input.utf8ByteSize < limit) :
    s.next? limit = some (s.next.answer, s.next.after.scan.spot) := by
  rw [← byteSize_toList] at hlimit
  cases hf : s.failure with
  | some e => simp only [next?, hf, next_of_failure hf]
  | none => simp only [next?, hf, next_of_search hf, h.within.token?_spot hlimit]

theorem safe (h : s.Sound s.input) : s.Safe := by
  -- what is behind the session decides about its offset and its position
  obtain ⟨front, htext, -, hposition⟩ := h.within
  have hsize : byteSize front + byteSize s.scan.ahead = s.input.utf8ByteSize := by
    rw [← byteSize_append, ← htext, byteSize_toList]
  have hoffset : s.scan.position.offset = byteSize front := by
    rw [hposition, Position.behind_offset]
  constructor
  case offset_le => omega
  case isValid => exact hoffset ▸ isValid_byteSize htext
  case line_pos => exact hposition ▸ Position.line_pos front
  case column_pos => exact hposition ▸ Position.column_pos front
  case line_add_column_le => exact hposition ▸ Position.line_add_column_le front
  case position?_failure => exact h.position?_failure
  case of_finished =>
    intro hfinished
    refine (h.of_finished hfinished).imp_right fun hnil => ?_
    rw [hnil, byteSize_nil] at hsize
    omega
  case next?_eq => exact fun limit hlimit => h.next?_eq hlimit

end Sound

end Session

/-- **Safety**: after any requests, a session stands between two characters of its text or at one of
its ends, with a line and a column that the offset bounds, with its failure there if it has one, and
at the end of the text if its items are over without a failure. So no call can cut the text where it
cannot be cut, and no sum gets over a limit that is above the size of the text. -/
theorem Scanner.safe_serveAll_lex (scanner : Scanner S) (input : String)
    (requests : List Request) :
    let s := ((scanner.lex input).answer.serveAll requests).after
    s.input = input ∧ s.Safe := by
  intro s
  have hsound : s.Sound input := (Session.sound_lex scanner input).serveAll requests
  have hinput : s.input = input := (Session.keeps_serveAll requests _).2
  exact ⟨hinput, Session.Sound.safe (hinput.symm ▸ hsound)⟩

/-- A call into a text with a character of two bytes, and a session that has failed in its third
line. The limit is the largest number of 64 bits. -/
theorem Scanner.safe_serveAll_words :
    let text := "éa\n\n b?"
    let s := ((words.lex text).answer.serveAll []).after
    let s' := ((words.lex text).answer.serveAll [.next, .item, .item]).after
    s.next? 18446744073709551615 =
        some (.ok (some ⟨"WORD", "éa", ⟨0, 1, 1⟩⟩), ⟨⟨3, 1, 3⟩, []⟩) ∧
      (s'.failure = some (.noMatch ⟨7, 3, 3⟩) ∧ s'.scan.position = ⟨7, 3, 3⟩) ∧
      s'.finished ∧ s'.failure ≠ none := by
  intro text s s'
  obtain ⟨hinput, hsafe⟩ := safe_serveAll_lex words text []
  obtain ⟨-, hsafe'⟩ := safe_serveAll_lex words text [.next, .item, .item]
  have hnext : (s.next.answer, s.next.after.scan.spot) =
      (.ok (some ⟨"WORD", "éa", ⟨0, 1, 1⟩⟩), ⟨⟨3, 1, 3⟩, []⟩) := by decide +kernel
  have hfailure : s'.failure = some (.noMatch ⟨7, 3, 3⟩) := by decide +kernel
  have hfinished : s'.finished := by decide +kernel
  refine ⟨?_, ⟨hfailure, ?_⟩, hfinished, ?_⟩
  · rw [hsafe.next?_eq _ (hinput ▸ by decide +kernel), hnext]
  · exact (Option.some.inj (hsafe'.position?_failure _ hfailure)).symm
  · exact (hsafe'.of_finished hfinished).resolve_right (by decide +kernel)

end ScanRules
