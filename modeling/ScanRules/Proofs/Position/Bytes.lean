import ScanRules.Proofs.Checked.Position
import ScanRules.Proofs.Text.Utf8

/-!
# Positions on bytes

A text is stored as bytes, and a position is advanced over a span of them. The line feeds of the span
are found and counted among its bytes, and characters are counted only where the column needs them.
Lines and columns have no limit here. `Checked.advance?` is about positions that have one, and
`Position.wrap` about those that start over at zero.

- `countChars`, `lastFeedByte?`: what is read off bytes.
- `Position.advanceOnBytes`: the position behind the bytes of a span.
- `Position.advanceOver?`: the same for the characters of a span, as the scan does it.
- `Position.advanceOver?_eq_foldl`: both agree with going on character by character, from any line
  and column, and it does not matter in how many spans this is done.
- `Position.wrap_advanceOver?`: they agree as well where lines and columns are kept in words.
-/

namespace ScanRules

/-! ## Counting among bytes -/

/-- The number of characters among bytes. A character counts where it begins. -/
def countChars (bytes : List UInt8) : Nat :=
  bytes.countP fun byte => byte.IsUTF8FirstByte

/-- The index of the last line feed among bytes, found from the end. -/
def lastFeedByte? (bytes : List UInt8) : Option Nat :=
  (bytes.reverse.idxOf? 10).map fun index => bytes.length - 1 - index

theorem lastFeedByte?_of_not_mem {bytes : List UInt8} (h : 10 ∉ bytes) :
    lastFeedByte? bytes = none := by
  rw [lastFeedByte?, List.idxOf?_eq_none_iff.2 (mt List.mem_reverse.1 h), Option.map_none]

theorem lastFeedByte?_append (a : List UInt8) {tail : List UInt8} (h : 10 ∉ tail) :
    lastFeedByte? (a ++ 10 :: tail) = some a.length := by
  have hindex : (a ++ 10 :: tail).reverse.idxOf? 10 = some tail.length := by
    have hnone : tail.reverse.findIdx? (· == 10) = none :=
      List.idxOf?_eq_none_iff.2 (mt List.mem_reverse.1 h)
    rw [List.reverse_append, List.reverse_cons, List.append_assoc, List.idxOf?,
      List.findIdx?_append, hnone, Option.none_or, List.singleton_append, List.findIdx?_cons]
    simp
  rw [lastFeedByte?, hindex, Option.map_some, List.length_append, List.length_cons]
  congr 1
  omega

/-- Each character begins with one of its bytes. -/
theorem countChars_utf8EncodeChar (c : Char) : countChars (String.utf8EncodeChar c) = 1 := by
  have hfirst : ∀ {i : Nat} (hi : i < (String.utf8EncodeChar c).length),
      ((String.utf8EncodeChar c)[i]).IsUTF8FirstByte ↔ i = 0 :=
    fun _ => UInt8.isUTF8FirstByte_getElem_utf8EncodeChar
  have hne := String.utf8EncodeChar_ne_nil (c := c)
  unfold countChars
  generalize String.utf8EncodeChar c = bytes at hfirst hne
  cases bytes with
  | nil => exact absurd rfl hne
  | cons byte rest =>
    have hbyte : byte.IsUTF8FirstByte := (hfirst (Nat.zero_lt_succ _)).2 rfl
    -- the bytes behind the first one only go on with the character
    have hrest : rest.countP (fun byte => byte.IsUTF8FirstByte) = 0 := by
      rw [List.countP_eq_zero]
      intro other hother hstarts
      obtain ⟨i, hi, rfl⟩ := List.getElem_of_mem hother
      have := (hfirst (i := i + 1) (Nat.succ_lt_succ hi)).1 (of_decide_eq_true hstarts)
      omega
    rw [List.countP_cons, hrest, if_pos (decide_eq_true hbyte)]

/-- Only a line feed has the byte of a line feed. -/
theorem count_feed_utf8EncodeChar (c : Char) :
    (String.utf8EncodeChar c).count 10 = [c].count '\n' := by
  by_cases h : c = '\n'
  · subst h
    rfl
  · have hbytes : 10 ∉ String.utf8EncodeChar c := by
      intro hmem
      obtain hsame | ⟨hlarge, -⟩ := ofUInt8_of_mem_utf8EncodeChar hmem
      · exact h hsame.symm
      · exact absurd hlarge (by decide)
    rw [List.count_eq_zero.2 hbytes, List.count_singleton, if_neg (by simpa using h)]

theorem countChars_flatMap (text : List Char) :
    countChars (text.flatMap String.utf8EncodeChar) = text.length := by
  induction text with
  | nil => rfl
  | cons c rest ih =>
    have hc := countChars_utf8EncodeChar c
    unfold countChars at hc ih ⊢
    rw [List.flatMap_cons, List.countP_append, hc, ih, List.length_cons, Nat.add_comm]

theorem count_feed_flatMap (text : List Char) :
    (text.flatMap String.utf8EncodeChar).count 10 = text.count '\n' := by
  induction text with
  | nil => rfl
  | cons c rest ih =>
    rw [List.flatMap_cons, List.count_append, count_feed_utf8EncodeChar, ih, ← List.count_append,
      List.singleton_append]

theorem feed_mem_flatMap_iff {text : List Char} :
    10 ∈ text.flatMap String.utf8EncodeChar ↔ '\n' ∈ text := by
  rw [← List.count_pos_iff, count_feed_flatMap, List.count_pos_iff]

theorem flatMap_append_feed (a tail : List Char) :
    (a ++ '\n' :: tail).flatMap String.utf8EncodeChar =
      a.flatMap String.utf8EncodeChar ++ 10 :: tail.flatMap String.utf8EncodeChar := by
  rw [List.flatMap_append, List.flatMap_cons]
  rfl

/-! ## Spans -/

/-- The bytes of a span. -/
def bytesOf (input : String) (span : Span) : List UInt8 :=
  (input.toByteArray.extract span.start span.stop).data.toList

theorem bytesOf_append {input : String} {a b c : List Char} (h : input.toList = a ++ b ++ c) :
    bytesOf input ⟨byteSize a, byteSize a + byteSize b⟩ = b.flatMap String.utf8EncodeChar := by
  have hbytes : input.toByteArray.data.toList = a.flatMap String.utf8EncodeChar ++
      b.flatMap String.utf8EncodeChar ++ c.flatMap String.utf8EncodeChar := by
    rw [← String.utf8Encode_toList, h, List.utf8Encode, List.toList_data_toByteArray,
      List.flatMap_append, List.flatMap_append]
  rw [bytesOf, ByteArray.data_extract, Array.toList_extract, hbytes, List.extract_eq_take_drop,
    List.append_assoc, List.drop_left' (length_flatMap_utf8EncodeChar a), Nat.add_sub_cancel_left,
    List.take_left' (length_flatMap_utf8EncodeChar b)]

namespace Position

/-- The position behind the bytes of a span. -/
def advanceOnBytes (p : Position) (input : String) (span : Span) : Position :=
  let bytes := bytesOf input span
  match lastFeedByte? bytes with
  | some index => ⟨span.stop, p.line + bytes.count 10, countChars (bytes.drop (index + 1)) + 1⟩
  | none => ⟨span.stop, p.line, p.column + countChars bytes⟩

/-- The position behind the characters of a span, if both of its ends fall between two characters. -/
def advanceOver? (p : Position) (input : String) (span : Span) : Option Position :=
  (slice? input.toList span).map p.advance

variable {input : String} {a b c : List Char}

theorem advanceOver?_append (p : Position) (h : input.toList = a ++ b ++ c) :
    p.advanceOver? input ⟨byteSize a, byteSize a + byteSize b⟩ = some (p.advance b) := by
  rw [advanceOver?, h, slice?_append, Option.map_some]

/-- What is counted among the bytes of a span are its line feeds and characters. -/
theorem advanceOnBytes_append {p : Position} (h : input.toList = a ++ b ++ c)
    (hp : p.offset = byteSize a) :
    p.advanceOnBytes input ⟨byteSize a, byteSize a + byteSize b⟩ = p.advance b := by
  rw [advanceOnBytes, bytesOf_append h]
  by_cases hmem : '\n' ∈ b
  · -- the bytes behind the last one of a line feed are those of the last line
    obtain ⟨front, tail, rfl, htail⟩ := Checked.exists_append_of_mem hmem
    have hcount := count_feed_flatMap (front ++ '\n' :: tail)
    have hlast := lastFeedByte?_append (front.flatMap String.utf8EncodeChar)
      (mt feed_mem_flatMap_iff.1 htail)
    rw [flatMap_append_feed] at hcount ⊢
    rw [Checked.advance_append_feed p front htail, hlast]
    simp only [hcount, List.drop_length_add_append, List.drop_succ_cons, List.drop_zero,
      countChars_flatMap, hp]
  · have hnone := lastFeedByte?_of_not_mem (mt feed_mem_flatMap_iff.1 hmem)
    rw [advance_of_not_mem p hmem, hnone, countChars_flatMap, hp]

/-- **Positions go on character by character**: from any line and any column, over any span that
starts at the position and has its ends between characters, advancing comes to the position of going
through all the characters of the span, each line feed starting a line and each other character a
column. It comes there also by counting among the bytes of the span. To advance over a span and then
over the next one is to advance over both. -/
theorem advanceOver?_eq_foldl {p : Position} {input : String} {span : Span}
    (hstart : span.start = p.offset) (hle : span.start ≤ span.stop)
    (hvalid : String.Pos.Raw.IsValid input ⟨span.start⟩)
    (hvalid' : String.Pos.Raw.IsValid input ⟨span.stop⟩) :
    (∃ word, slice? input.toList span = some word ∧
      p.advanceOver? input span = some { word.foldl step p with offset := span.stop }) ∧
    p.advanceOver? input span = some (p.advanceOnBytes input span) ∧
    ∀ stop, span.stop ≤ stop → String.Pos.Raw.IsValid input ⟨stop⟩ →
      (p.advanceOver? input span).bind (·.advanceOver? input ⟨span.stop, stop⟩) =
        p.advanceOver? input ⟨span.start, stop⟩ := by
  obtain ⟨start, stop⟩ := span
  obtain ⟨a, rest, htext, rfl⟩ := exists_append_of_isValid hvalid
  obtain ⟨b, rest, rfl, rfl⟩ := exists_append_of_isValid_of_le htext hle hvalid'
  rw [← List.append_assoc] at htext
  have hover := p.advanceOver?_append htext
  refine ⟨⟨b, ?_, ?_⟩, ?_, ?_⟩
  · rw [htext, slice?_append]
  · have hoffset : (p.advance b).offset = byteSize a + byteSize b := by
      rw [advance_offset, ← hstart]
    rw [hover, foldl_step, ← hoffset]
  · rw [hover, advanceOnBytes_append htext hstart.symm]
  · intro stop hle' hstop
    rw [← byteSize_append] at hle'
    obtain ⟨more, c, rfl, rfl⟩ := exists_append_of_isValid_of_le htext hle' hstop
    have hnext : input.toList = a ++ b ++ more ++ c := by rw [htext, List.append_assoc (a ++ b)]
    have hboth : input.toList = a ++ (b ++ more) ++ c := by rw [hnext, List.append_assoc a]
    rw [hover, Option.bind_some, ← byteSize_append, advanceOver?_append _ hnext, byteSize_append,
      Nat.add_assoc, ← byteSize_append b more, advanceOver?_append _ hboth, advance_append]

/-- The first span has two line feeds in it and ends behind a character of two bytes. -/
theorem advanceOver?_eq_foldl_lines :
    let text := "aé\n\nß x"
    let p : Position := ⟨1, 7, 40⟩
    (1 = p.offset ∧ 1 ≤ 7 ∧ String.Pos.Raw.IsValid text ⟨1⟩ ∧ String.Pos.Raw.IsValid text ⟨7⟩) ∧
      (∃ word, slice? text.toList ⟨1, 7⟩ = some word ∧ word = ['é', '\n', '\n', 'ß'] ∧
        p.advanceOver? text ⟨1, 7⟩ = some { word.foldl step p with offset := 7 }) ∧
      (p.advanceOver? text ⟨1, 7⟩ = some (p.advanceOnBytes text ⟨1, 7⟩) ∧
        p.advanceOnBytes text ⟨1, 7⟩ = ⟨7, 9, 2⟩) ∧
      (7 ≤ 9 ∧ String.Pos.Raw.IsValid text ⟨9⟩) ∧
      (p.advanceOver? text ⟨1, 7⟩).bind (·.advanceOver? text ⟨7, 9⟩) =
        p.advanceOver? text ⟨1, 9⟩ := by
  intro text p
  have hstart : String.Pos.Raw.IsValid text ⟨1⟩ := by decide +kernel
  have hstop : String.Pos.Raw.IsValid text ⟨7⟩ := by decide +kernel
  have hend : String.Pos.Raw.IsValid text ⟨9⟩ := by decide +kernel
  have hword : slice? text.toList ⟨1, 7⟩ = some ['é', '\n', '\n', 'ß'] := by decide +kernel
  have hfound : p.advanceOnBytes text ⟨1, 7⟩ = ⟨7, 9, 2⟩ := by decide +kernel
  have hspan : (⟨1, 7⟩ : Span).start ≤ (⟨1, 7⟩ : Span).stop := by decide
  obtain ⟨⟨word, hslice, hfold⟩, hbytes, hnext⟩ :=
    @advanceOver?_eq_foldl p text ⟨1, 7⟩ rfl hspan hstart hstop
  obtain rfl := Option.some.inj (hword.symm.trans hslice)
  exact ⟨⟨rfl, by decide, hstart, hstop⟩, ⟨_, hslice, rfl, hfold⟩, ⟨hbytes, hfound⟩,
    ⟨by decide, hend⟩, hnext 9 (by decide) hend⟩

/-! ## Lines and columns in words -/

/-- The position with its line and column modulo `m`. -/
def wrap (m : Nat) (p : Position) : Position :=
  { p with line := p.line % m, column := p.column % m }

/-- A step adds to the numbers of a position or sets them. So it does not matter if they have
started over before. -/
theorem wrap_step (m : Nat) (p : Position) (c : Char) :
    ((p.wrap m).step c).wrap m = (p.step c).wrap m := by
  by_cases h : c = '\n'
  · simp only [step, if_pos h, wrap, Nat.mod_add_mod]
  · simp only [step, if_neg h, wrap, Nat.mod_add_mod, Nat.mod_mod]

/-- Going through a text with numbers that start over comes to the position behind it. -/
theorem foldl_wrap_step (m : Nat) (p : Position) (text : List Char) :
    text.foldl (fun q c => (q.step c).wrap m) (p.wrap m) = (p.advance text).wrap m := by
  induction text generalizing p with
  | nil => rfl
  | cons c rest ih =>
    rw [List.foldl_cons, wrap_step, ih, ← advance_singleton, ← advance_append,
      List.singleton_append]

theorem wrap_advance (m : Nat) (p : Position) (text : List Char) :
    ((p.wrap m).advance text).wrap m = (p.advance text).wrap m := by
  have hwrap : (p.wrap m).wrap m = p.wrap m := by
    simp only [wrap, Nat.mod_mod]
  rw [← foldl_wrap_step, hwrap, foldl_wrap_step]

/-- Where lines and columns are kept in words, which start over at `m`, advancing over a span comes
to the same position as going through its characters, on characters as well as on bytes, and it does
not matter if the numbers have started over before. -/
theorem wrap_advanceOver? (m : Nat) {p : Position} {input : String} {span : Span}
    (hstart : span.start = p.offset) (hle : span.start ≤ span.stop)
    (hvalid : String.Pos.Raw.IsValid input ⟨span.start⟩)
    (hvalid' : String.Pos.Raw.IsValid input ⟨span.stop⟩) :
    (∃ word, slice? input.toList span = some word ∧ (p.advanceOver? input span).map (wrap m) =
      some { word.foldl (fun q c => (q.step c).wrap m) (p.wrap m) with offset := span.stop }) ∧
    (p.advanceOver? input span).map (wrap m) = some ((p.advanceOnBytes input span).wrap m) ∧
    ((p.wrap m).advanceOver? input span).map (wrap m) =
      (p.advanceOver? input span).map (wrap m) := by
  obtain ⟨start, stop⟩ := span
  obtain ⟨a, rest, htext, rfl⟩ := exists_append_of_isValid hvalid
  obtain ⟨b, rest, rfl, rfl⟩ := exists_append_of_isValid_of_le htext hle hvalid'
  rw [← List.append_assoc] at htext
  rw [advanceOver?_append p htext, advanceOver?_append (p.wrap m) htext, Option.map_some,
    Option.map_some, wrap_advance]
  refine ⟨⟨b, ?_, ?_⟩, ?_, rfl⟩
  · rw [htext, slice?_append]
  · have hoffset : ((p.advance b).wrap m).offset = byteSize a + byteSize b := by
      show (p.advance b).offset = byteSize a + byteSize b
      rw [advance_offset, ← hstart]
    rw [foldl_wrap_step, ← hoffset]
  · rw [advanceOnBytes_append htext hstart.symm]

end Position

end ScanRules
