import ScanRules.Span
import ScanRules.Text.Bytes

/-!
# Cutting a text at offsets

- `textBefore?`: the text in front of an offset, if the offset falls between two characters.
- `slice?`: the text of a span, if both of its ends fall between two characters.
- `isValid_byteSize`, `exists_append_of_isValid`: in the bytes of a string, to fall between two
  characters is to be a valid position.
- `exists_append_of_isValid_of_le`: the part of a string from one such position to another one.

An offset falls between two characters iff it is the size of some front part of the text, and no
two front parts have the same size (`textBefore?_eq_some_iff`). All other lemmas speak of a text
that is written as an append, so that no offset has to be followed through the characters.
-/

namespace ScanRules

@[simp] theorem byteSize_eq_zero_iff {text : List Char} : byteSize text = 0 ↔ text = [] := by
  cases text with
  | nil => simp
  | cons c rest =>
    have := c.utf8Size_pos
    simp only [byteSize_cons, reduceCtorEq, iff_false]
    omega

/-- The text in front of an offset. -/
def textBefore? : List Char → Nat → Option (List Char)
  | _, 0 => some []
  | [], _ + 1 => none
  | c :: rest, offset =>
    if c.utf8Size ≤ offset then (textBefore? rest (offset - c.utf8Size)).map (c :: ·) else none

/-- The text of a span. -/
def slice? (text : List Char) (span : Span) : Option (List Char) := do
  let front ← textBefore? text span.stop
  let (_, part) ← seek? none front span.start
  return part

theorem textBefore?_cons {c : Char} {rest : List Char} {offset : Nat} (h : c.utf8Size ≤ offset) :
    textBefore? (c :: rest) offset = (textBefore? rest (offset - c.utf8Size)).map (c :: ·) := by
  have := c.utf8Size_pos
  obtain ⟨n, rfl⟩ : ∃ n, offset = n + 1 := ⟨offset - 1, by omega⟩
  rw [textBefore?, if_pos h]
  exact Nat.succ_ne_zero n

theorem textBefore?_append (a b : List Char) : textBefore? (a ++ b) (byteSize a) = some a := by
  induction a with
  | nil => simp [textBefore?]
  | cons c a ih =>
    rw [List.cons_append, byteSize_cons, textBefore?_cons (Nat.le_add_right ..),
      Nat.add_sub_cancel_left, ih, Option.map_some]

/-- The text in front of an offset is the front part of that size. -/
theorem textBefore?_eq_some_iff {text a : List Char} {offset : Nat} :
    textBefore? text offset = some a ↔ ∃ b, text = a ++ b ∧ byteSize a = offset := by
  constructor
  · intro h
    fun_induction textBefore? text offset generalizing a with
    | case1 text => exact ⟨text, by simp_all⟩
    | case2 => cases h
    | case3 c rest offset _ hle ih =>
      obtain ⟨front, hfront, rfl⟩ := Option.map_eq_some_iff.1 h
      obtain ⟨b, rfl, hsize⟩ := ih hfront
      refine ⟨b, rfl, ?_⟩
      rw [byteSize_cons]
      omega
    | case4 => cases h
  · rintro ⟨b, rfl, rfl⟩
    exact textBefore?_append a b

theorem seek?_append (before : Option Char) (a b : List Char) :
    seek? before (a ++ b) (byteSize a) = some (a.getLast?.or before, b) := by
  induction a generalizing before with
  | nil => simp [seek?]
  | cons c a ih =>
    have := c.utf8Size_pos
    obtain ⟨n, hn⟩ : ∃ n, c.utf8Size + byteSize a = n + 1 :=
      ⟨c.utf8Size + byteSize a - 1, by omega⟩
    rw [List.cons_append, byteSize_cons, hn, seek?, if_pos (by omega), ← hn,
      Nat.add_sub_cancel_left, ih, List.getLast?_cons, Option.or_some, Option.some_or]
    exact Nat.succ_ne_zero n

/-- From an offset on, a text is what follows the front part of that size. -/
theorem seek?_eq_some_iff {before b : Option Char} {text rest : List Char} {offset : Nat} :
    seek? before text offset = some (b, rest) ↔
      ∃ a, text = a ++ rest ∧ byteSize a = offset ∧ b = a.getLast?.or before := by
  constructor
  · intro h
    fun_induction seek? before text offset with
    | case1 before text =>
      obtain ⟨rfl, rfl⟩ := Prod.mk.inj (Option.some.inj h)
      exact ⟨[], rfl, rfl, rfl⟩
    | case2 => cases h
    | case3 before c text offset _ hle ih =>
      obtain ⟨a, rfl, hsize, rfl⟩ := ih h
      refine ⟨c :: a, rfl, ?_, ?_⟩
      · rw [byteSize_cons]
        omega
      · rw [List.getLast?_cons, Option.or_some, Option.some_or]
    | case4 => cases h
  · rintro ⟨a, rfl, rfl, rfl⟩
    exact seek?_append before a rest

theorem slice?_append (a b c : List Char) :
    slice? (a ++ b ++ c) ⟨byteSize a, byteSize a + byteSize b⟩ = some b := by
  simp only [slice?, ← byteSize_append, textBefore?_append, seek?_append, Option.bind_eq_bind,
    Option.bind_some, Option.pure_def]

/-! ## The bytes of a string -/

theorem byteSize_eq_utf8ByteSize (text : List Char) :
    byteSize text = (String.ofList text).utf8ByteSize := by
  induction text with
  | nil => rfl
  | cons c rest ih =>
    rw [byteSize_cons, ih, String.ofList_cons, String.utf8ByteSize_append,
      String.utf8ByteSize_singleton]

theorem byteSize_toList (text : String) : byteSize text.toList = text.utf8ByteSize := by
  rw [byteSize_eq_utf8ByteSize, String.ofList_toList]

/-- The size of a front part is a position between two characters of the string. -/
theorem isValid_byteSize {text : String} {a b : List Char} (h : text.toList = a ++ b) :
    String.Pos.Raw.IsValid text ⟨byteSize a⟩ := by
  rw [String.Pos.Raw.isValid_iff_exists_append]
  refine ⟨String.ofList a, String.ofList b, ?_, ?_⟩
  · rw [← String.ofList_append, ← h, String.ofList_toList]
  · rw [byteSize_eq_utf8ByteSize]
    rfl

/-- There are no other positions between two characters. -/
theorem exists_append_of_isValid {text : String} {offset : Nat}
    (h : String.Pos.Raw.IsValid text ⟨offset⟩) :
    ∃ a b, text.toList = a ++ b ∧ byteSize a = offset := by
  obtain ⟨a, b, rfl, hoffset⟩ := String.Pos.Raw.isValid_iff_exists_append.1 h
  refine ⟨a.toList, b.toList, String.toList_append, ?_⟩
  rw [byteSize_toList]
  exact (congrArg String.Pos.Raw.byteIdx hoffset).symm

/-- From one position between two characters to a later one, there is a part of the string. -/
theorem exists_append_of_isValid_of_le {text : String} {a rest : List Char} {stop : Nat}
    (htext : text.toList = a ++ rest) (hle : byteSize a ≤ stop)
    (hvalid : String.Pos.Raw.IsValid text ⟨stop⟩) :
    ∃ b c, rest = b ++ c ∧ byteSize a + byteSize b = stop := by
  obtain ⟨front, c, htext', rfl⟩ := exists_append_of_isValid hvalid
  obtain ⟨b, rfl, rfl⟩ | ⟨b, rfl, rfl⟩ := List.append_eq_append_iff.1 (htext.symm.trans htext')
  · exact ⟨b, c, rfl, (byteSize_append a b).symm⟩
  · rw [byteSize_append] at hle ⊢
    exact ⟨[], rest, rfl, by rw [byteSize_nil]; omega⟩

end ScanRules
