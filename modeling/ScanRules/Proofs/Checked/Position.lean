import ScanRules.Proofs.Position

/-!
# Positions with checks

To advance over a list of characters cannot go wrong. To advance over a span of a whole text can: the
span may end inside of a character or beyond the text, and a sum may be too large for the words in
which positions are kept.

- `Checked.sum?`, `Checked.position?`: a sum within a limit, and a position whose line and column
  are not zero.
- `Checked.lastFeed?`: the offset of the last line feed, which is where the last line is cut off.
- `Checked.advance?`: the position behind a span. It is missing where anything goes wrong.
- `Position.line_add_column_le`: the bound for lines and columns.
- `Checked.advance?_behind`: nothing goes wrong where the limit is above the size of the text.
-/

namespace ScanRules

namespace Checked

/-- The sum of two numbers, if it is not over the limit. -/
def sum? (limit a b : Nat) : Option Nat :=
  if a + b ≤ limit then some (a + b) else none

/-- The position made of three numbers, if line and column are not zero. -/
def position? (offset line column : Nat) : Option Position :=
  if 0 < line ∧ 0 < column then some ⟨offset, line, column⟩ else none

/-- The offset of the last line feed of a text. -/
def lastFeed? : List Char → Option Nat
  | [] => none
  | c :: rest =>
    match lastFeed? rest with
    | some offset => some (c.utf8Size + offset)
    | none => if c = '\n' then some 0 else none

/-- The position behind a span of a text. The span has to start at the position and to be one that
can be cut out of the text, and so has the rest of its last line. -/
def advance? (limit : Nat) (text : List Char) (p : Position) (span : Span) : Option Position :=
  if span.start = p.offset then do
    let word ← slice? text span
    match lastFeed? word with
    | some offset =>
      let line ← sum? limit p.line (word.count '\n')
      let start ← sum? limit offset 1
      let tail ← slice? word ⟨start, byteSize word⟩
      let column ← sum? limit tail.length 1
      position? span.stop line column
    | none =>
      let column ← sum? limit p.column word.length
      position? span.stop p.line column
  else none

theorem sum?_of_le {limit a b : Nat} (h : a + b ≤ limit) : sum? limit a b = some (a + b) :=
  if_pos h

theorem position?_of_pos {offset line column : Nat} (hline : 0 < line) (hcolumn : 0 < column) :
    position? offset line column = some ⟨offset, line, column⟩ :=
  if_pos ⟨hline, hcolumn⟩

theorem offset_of_position? {offset line column : Nat} {p : Position}
    (h : position? offset line column = some p) : p.offset = offset := by
  unfold position? at h
  split at h
  · obtain rfl := Option.some.inj h
    rfl
  · cases h

/-- A position that is found is the one where the span stops. -/
theorem offset_of_advance? {limit : Nat} {text : List Char} {p q : Position} {span : Span}
    (h : advance? limit text p span = some q) : span.start = p.offset ∧ q.offset = span.stop := by
  unfold advance? at h
  split at h
  · next hstart =>
    obtain ⟨word, -, h⟩ := Option.bind_eq_some_iff.1 h
    refine ⟨hstart, ?_⟩
    split at h
    · obtain ⟨line, -, h⟩ := Option.bind_eq_some_iff.1 h
      obtain ⟨start, -, h⟩ := Option.bind_eq_some_iff.1 h
      obtain ⟨tail, -, h⟩ := Option.bind_eq_some_iff.1 h
      obtain ⟨column, -, h⟩ := Option.bind_eq_some_iff.1 h
      exact offset_of_position? h
    · obtain ⟨column, -, h⟩ := Option.bind_eq_some_iff.1 h
      exact offset_of_position? h
  · cases h

/-! ## The last line feed -/

theorem lastFeed?_of_not_mem {text : List Char} (h : '\n' ∉ text) : lastFeed? text = none := by
  induction text with
  | nil => rfl
  | cons c rest ih =>
    rw [List.mem_cons, not_or] at h
    rw [lastFeed?, ih h.2]
    exact if_neg (Ne.symm h.1)

theorem lastFeed?_append (a : List Char) {tail : List Char} (h : '\n' ∉ tail) :
    lastFeed? (a ++ '\n' :: tail) = some (byteSize a) := by
  induction a with
  | nil => rw [List.nil_append, lastFeed?, lastFeed?_of_not_mem h]; rfl
  | cons c a ih => rw [List.cons_append, lastFeed?, ih]; rfl

/-- A text with line feeds is what stands in front of the last one and the rest of the line. -/
theorem exists_append_of_mem {text : List Char} (h : '\n' ∈ text) :
    ∃ a tail, text = a ++ '\n' :: tail ∧ '\n' ∉ tail := by
  obtain ⟨b, a, htext, hb⟩ := List.eq_append_cons_of_mem (List.mem_reverse.2 h)
  refine ⟨a.reverse, b.reverse, ?_, fun hmem => hb (List.mem_reverse.1 hmem)⟩
  rw [List.reverse_eq_iff.1 htext]
  simp

/-- The rest of the line is the slice of the text behind its last line feed. -/
theorem slice?_tail (a tail : List Char) :
    slice? (a ++ '\n' :: tail) ⟨byteSize a + 1, byteSize (a ++ '\n' :: tail)⟩ = some tail := by
  have hfront : byteSize (a ++ ['\n']) = byteSize a + 1 := by
    rw [byteSize_append]
    rfl
  have htext : a ++ '\n' :: tail = (a ++ ['\n']) ++ tail ++ [] := by simp
  have hsize : byteSize (a ++ '\n' :: tail) = byteSize (a ++ ['\n']) + byteSize tail := by
    rw [htext, List.append_nil, byteSize_append]
  rw [← hfront, hsize, htext]
  exact slice?_append (a ++ ['\n']) tail []

end Checked

/-! ## Bounds -/

theorem length_le_byteSize (text : List Char) : text.length ≤ byteSize text := by
  induction text with
  | nil => exact Nat.le_refl _
  | cons c rest ih =>
    have := c.utf8Size_pos
    rw [List.length_cons, byteSize_cons]
    omega

namespace Position

/-- Every line and every column behind the first takes up at least a byte. -/
theorem line_add_column_le (text : List Char) :
    (behind text).line - 1 + ((behind text).column - 1) ≤ (behind text).offset := by
  have hlines : (text.rtakeWhile (· ≠ '\n')).count '\n' = 0 := by
    rw [List.count_eq_zero]
    intro hmem
    simpa using List.mem_rtakeWhile_imp hmem
  have hcount : text.count '\n' ≤ (text.rdropWhile (· ≠ '\n')).length := by
    conv_lhs => rw [← List.rdropWhile_append_rtakeWhile (p := (· ≠ '\n')) (l := text)]
    rw [List.count_append, hlines, Nat.add_zero]
    exact List.count_le_length
  have hlength : (text.rdropWhile (· ≠ '\n')).length + (text.rtakeWhile (· ≠ '\n')).length =
      text.length := by
    rw [← List.length_append, List.rdropWhile_append_rtakeWhile]
  have hsize := length_le_byteSize text
  show 1 + text.count '\n' - 1 + (1 + (text.rtakeWhile (· ≠ '\n')).length - 1) ≤ byteSize text
  omega

theorem line_pos (text : List Char) : 0 < (behind text).line := Nat.add_pos_left Nat.one_pos _

theorem column_pos (text : List Char) : 0 < (behind text).column := Nat.add_pos_left Nat.one_pos _

end Position

/-! ## Nothing goes wrong -/

namespace Checked

/-- Behind a text with line feeds, the column is counted in the rest of the last line. -/
theorem advance_append_feed (p : Position) (a : List Char) {tail : List Char} (h : '\n' ∉ tail) :
    p.advance (a ++ '\n' :: tail) = ⟨p.offset + byteSize (a ++ '\n' :: tail),
      p.line + (a ++ '\n' :: tail).count '\n', tail.length + 1⟩ := by
  have hmem : '\n' ∈ a ++ '\n' :: tail := List.mem_append_right _ List.mem_cons_self
  have hline : (a ++ '\n' :: tail).rtakeWhile (· ≠ '\n') = tail := by
    rw [List.append_cons, Position.rtakeWhile_append_of_not_mem _ h,
      List.rtakeWhile_concat_neg _ _ _ (by decide), List.nil_append]
  rw [Position.advance_of_mem p hmem, hline]

/-- Where the limit is above the size of the text, to advance from behind a front part of it over
the next part goes well, and it leads to the position that it should. -/
theorem advance?_behind {limit : Nat} {front word back : List Char}
    (hlimit : byteSize (front ++ word ++ back) < limit) :
    advance? limit (front ++ word ++ back) (Position.behind front)
      ⟨byteSize front, byteSize front + byteSize word⟩ =
        some ((Position.behind front).advance word) := by
  -- the line and the column behind the part are both within the limit
  have hbound := Position.line_add_column_le (front ++ word)
  have hline := Position.line_pos (front ++ word)
  have hcolumn := Position.column_pos (front ++ word)
  rw [← Position.advance_behind] at hbound hline hcolumn
  rw [Position.advance_offset, Position.behind_offset] at hbound
  simp only [byteSize_append] at hlimit
  have hslice := slice?_append front word back
  by_cases h : '\n' ∈ word
  · obtain ⟨a, tail, rfl, htail⟩ := exists_append_of_mem h
    have hfeed : byteSize a + 1 ≤ byteSize (a ++ '\n' :: tail) := by
      rw [byteSize_append, byteSize_cons]
      have := '\n'.utf8Size_pos
      omega
    rw [advance_append_feed _ _ htail] at hbound hline hcolumn ⊢
    simp only at hbound hline hcolumn
    have hlines : sum? limit (Position.behind front).line ((a ++ '\n' :: tail).count '\n') =
      some _ := sum?_of_le (by omega)
    have hstart : sum? limit (byteSize a) 1 = some _ := sum?_of_le (by omega)
    have hcolumns : sum? limit tail.length 1 = some _ := sum?_of_le (by omega)
    simp only [advance?, Position.behind_offset, if_true, hslice, lastFeed?_append a htail,
      hlines, hstart, slice?_tail, hcolumns, position?_of_pos hline hcolumn, Option.bind_eq_bind,
      Option.bind_some]
  · rw [Position.advance_of_not_mem _ h] at hbound hline hcolumn ⊢
    simp only at hbound hline hcolumn
    have hcolumns : sum? limit (Position.behind front).column word.length = some _ :=
      sum?_of_le (by omega)
    simp only [advance?, Position.behind_offset, if_true, hslice, lastFeed?_of_not_mem h,
      hcolumns, position?_of_pos hline hcolumn, Option.bind_eq_bind, Option.bind_some]

end Checked

end ScanRules
