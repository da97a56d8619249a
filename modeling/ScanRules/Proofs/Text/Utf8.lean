import ScanRules.Proofs.Text.Slice

/-!
# The bytes of a text

Seen from its bytes, a text has characters only at some offsets. At the offset between two of its
characters, the bytes before and behind it are enough to find both of them.

- `size_utf8Encode`: the size of a text is the number of its bytes.
- `utf8DecodeChar?_append`: the character behind an offset.
- `utf8DecodeChar?_eq_none`: inside of a character, no character begins.
- `charBefore?`, `charBefore?_append`: the character in front of an offset.
- `byteAt?`, `byteBefore?`, `AlikeInAscii`: single bytes taken for characters. Whoever asks for
  characters of ASCII only will not notice.
-/

namespace ScanRules

theorem length_flatMap_utf8EncodeChar (text : List Char) :
    (text.flatMap String.utf8EncodeChar).length = byteSize text := by
  induction text with
  | nil => rfl
  | cons c rest ih =>
    rw [List.flatMap_cons, List.length_append, String.length_utf8EncodeChar, ih, byteSize_cons]

theorem size_utf8Encode (text : List Char) : text.utf8Encode.size = byteSize text := by
  rw [List.utf8Encode, List.size_toByteArray, length_flatMap_utf8EncodeChar]

/-! ## Characters -/

/-- Behind a front part of a text, its bytes begin with those of the next character. -/
theorem utf8DecodeChar?_append (a b : List Char) :
    (a ++ b).utf8Encode.utf8DecodeChar? (byteSize a) = b.head? := by
  have hrest : (a ++ b).utf8Encode.extract (byteSize a) (a ++ b).utf8Encode.size = b.utf8Encode := by
    rw [List.utf8Encode_append, ← size_utf8Encode a]
    exact ByteArray.extract_append_eq_right rfl ByteArray.size_append
  rw [ByteArray.utf8DecodeChar?_eq_utf8DecodeChar?_extract, hrest]
  cases b with
  | nil => rfl
  | cons c rest => exact List.utf8DecodeChar?_utf8Encode_cons

/-- Where a character begins in the bytes of a text, the text has a front part of this size. -/
theorem exists_append_of_utf8DecodeChar? {text : List Char} {offset : Nat} {c : Char}
    (h : text.utf8Encode.utf8DecodeChar? offset = some c) :
    ∃ a b, text = a ++ c :: b ∧ byteSize a = offset := by
  have hvalid : String.Pos.Raw.IsValid (String.ofList text) ⟨offset⟩ := by
    rw [String.Pos.Raw.isValid_iff_isSome_utf8DecodeChar?, String.toByteArray_ofList, h]
    exact .inr rfl
  obtain ⟨a, b, htext, rfl⟩ := exists_append_of_isValid hvalid
  obtain rfl : text = a ++ b := by rw [← htext, String.toList_ofList]
  rw [utf8DecodeChar?_append] at h
  obtain ⟨rest, rfl⟩ := List.head?_eq_some_iff.1 h
  exact ⟨a, rest, rfl, rfl⟩

/-- Inside of a character, no character begins: the front part in question would end there. -/
theorem utf8DecodeChar?_eq_none {a b : List Char} {c : Char} {offset : Nat}
    (hlt : byteSize a < offset) (hlt' : offset < byteSize a + c.utf8Size) :
    (a ++ c :: b).utf8Encode.utf8DecodeChar? offset = none := by
  rw [Option.eq_none_iff_forall_ne_some]
  intro d hd
  obtain ⟨a', b', htext, rfl⟩ := exists_append_of_utf8DecodeChar? hd
  obtain ⟨more, rfl, hmore⟩ | ⟨more, rfl, hmore⟩ := List.append_eq_append_iff.1 htext
  · -- the front part goes on behind `a`, and so it has `c` in it
    cases more with
    | nil => simp at hlt
    | cons e more =>
      obtain ⟨rfl, -⟩ := List.cons.inj hmore
      simp only [byteSize_append, byteSize_cons] at hlt'
      omega
  · simp only [byteSize_append] at hlt
    omega

theorem byteSize_concat (a : List Char) (c : Char) :
    byteSize (a ++ [c]) = byteSize a + c.utf8Size := by
  rw [byteSize_append, byteSize_cons, byteSize_nil, Nat.add_zero]

/-- The character whose bytes end at an offset. -/
def charBefore? (bytes : ByteArray) (offset : Nat) : Option Char :=
  [1, 2, 3, 4].findSome? fun size =>
    if size ≤ offset then
      (bytes.utf8DecodeChar? (offset - size)).filter fun c => c.utf8Size = size
    else none

theorem charBefore?_append (a b : List Char) :
    charBefore? (a ++ b).utf8Encode (byteSize a) = a.getLast? := by
  obtain rfl | ⟨a, c, rfl⟩ := List.eq_nil_or_concat a
  · rfl
  · have hbegins : (a ++ c :: b).utf8Encode.utf8DecodeChar? (byteSize a) = some c :=
      utf8DecodeChar?_append a (c :: b)
    rw [List.concat_eq_append, byteSize_concat, List.append_assoc, List.singleton_append,
      List.getLast?_concat, charBefore?, List.findSome?_eq_some_iff]
    refine ⟨List.range' 1 (c.utf8Size - 1), c.utf8Size,
      List.range' (c.utf8Size + 1) (4 - c.utf8Size), ?_, ?_, ?_⟩
    · obtain h | h | h | h : c.utf8Size = 1 ∨ c.utf8Size = 2 ∨ c.utf8Size = 3 ∨ c.utf8Size = 4 := by
        have := c.utf8Size_pos
        have := c.utf8Size_le_four
        omega
      all_goals
        rw [h]
        rfl
    · rw [if_pos (Nat.le_add_left ..), Nat.add_sub_cancel, hbegins, Option.filter_some, if_pos]
      exact decide_eq_true rfl
    · -- fewer bytes than those of `c` are only a part of them
      intro size hsize
      rw [List.mem_range'_1] at hsize
      have hinside := utf8DecodeChar?_eq_none (a := a) (b := b) (c := c)
        (show byteSize a < byteSize a + c.utf8Size - size by omega) (by omega)
      rw [if_pos (by omega), hinside, Option.filter_none]

/-! ## Single bytes -/

/-- The byte at an offset, taken for a character. -/
def byteAt? (bytes : ByteArray) (offset : Nat) : Option Char :=
  bytes[offset]?.map Char.ofUInt8

/-- The byte in front of an offset, taken for a character. -/
def byteBefore? (bytes : ByteArray) (offset : Nat) : Option Char :=
  if offset = 0 then none else byteAt? bytes (offset - 1)

/-- Both or none are there, and whoever asks for characters of ASCII only cannot tell them apart. -/
structure AlikeInAscii (x y : Option Char) : Prop where
  isNone_eq : x.isNone = y.isNone
  any_eq (test : Char → Bool) : (∀ c : Char, 128 ≤ c.toNat → test c = false) →
    x.any test = y.any test

theorem AlikeInAscii.beq_some_eq {x y : Option Char} (h : AlikeInAscii x y) {c : Char}
    (hc : c.toNat < 128) : (x == some c) = (y == some c) := by
  have hany : ∀ z : Option Char, (z == some c) = z.any (· == c) := fun z => by cases z <;> rfl
  have htest : ∀ d : Char, 128 ≤ d.toNat → (d == c) = false := by
    intro d hd
    refine beq_false_of_ne ?_
    rintro rfl
    exact Nat.not_lt.2 hd hc
  rw [hany, hany, h.any_eq _ htest]

/-- A byte of a character is this character, or neither of the two is in ASCII. -/
theorem ofUInt8_of_mem_utf8EncodeChar {c : Char} {byte : UInt8}
    (h : byte ∈ String.utf8EncodeChar c) :
    (Char.ofUInt8 byte) = c ∨ 128 ≤ (Char.ofUInt8 byte).toNat ∧ 128 ≤ c.toNat := by
  have hnat : (Char.ofUInt8 byte).toNat = byte.toNat := rfl
  have hval : c.val.toNat = c.toNat := rfl
  rw [hnat]
  unfold String.utf8EncodeChar at h
  simp only [hval] at h
  split at h
  · next hascii =>
    obtain rfl := List.mem_singleton.1 h
    refine .inl (Char.toNat_inj.1 ?_)
    rw [hnat, UInt8.toNat_ofNat']
    omega
  · next hlarge =>
    refine .inr ⟨?_, by omega⟩
    split at h
    · simp only [List.mem_cons, List.not_mem_nil, or_false] at h
      rcases h with rfl | rfl <;> rw [UInt8.toNat_ofNat'] <;> omega
    · split at h
      · simp only [List.mem_cons, List.not_mem_nil, or_false] at h
        rcases h with rfl | rfl | rfl <;> rw [UInt8.toNat_ofNat'] <;> omega
      · simp only [List.mem_cons, List.not_mem_nil, or_false] at h
        rcases h with rfl | rfl | rfl | rfl <;> rw [UInt8.toNat_ofNat'] <;> omega

theorem getElem?_utf8Encode (text : List Char) (i : Nat) :
    text.utf8Encode[i]? = (text.flatMap String.utf8EncodeChar)[i]? := by
  show text.utf8Encode.data[i]? = _
  rw [← Array.getElem?_toList, List.utf8Encode, List.toList_data_toByteArray]

/-- The bytes from the offset of a character to its end are bytes of this character. -/
theorem exists_byte_mem (a b : List Char) (c : Char) {offset : Nat} (hle : byteSize a ≤ offset)
    (hlt : offset < byteSize a + c.utf8Size) :
    ∃ byte ∈ String.utf8EncodeChar c, (a ++ c :: b).utf8Encode[offset]? = some byte := by
  have hlength := length_flatMap_utf8EncodeChar a
  have hin : offset - byteSize a < (String.utf8EncodeChar c).length := by
    rw [String.length_utf8EncodeChar]
    omega
  refine ⟨_, List.getElem_mem hin, ?_⟩
  rw [getElem?_utf8Encode, List.flatMap_append, List.getElem?_append_right (by omega), hlength,
    List.flatMap_cons, List.getElem?_append_left hin, List.getElem?_eq_getElem hin]

theorem alikeInAscii_of_mem {c : Char} {byte : UInt8} (h : byte ∈ String.utf8EncodeChar c) :
    AlikeInAscii (some (Char.ofUInt8 byte)) (some c) where
  isNone_eq := rfl
  any_eq test htest := by
    rw [Option.any_some, Option.any_some]
    obtain hsame | ⟨hbyte, hchar⟩ := ofUInt8_of_mem_utf8EncodeChar h
    · rw [hsame]
    · rw [htest _ hbyte, htest c hchar]

/-- Behind a front part of a text, the next byte is as good as the next character. -/
theorem alikeInAscii_byteAt? (a b : List Char) :
    AlikeInAscii (byteAt? (a ++ b).utf8Encode (byteSize a)) b.head? := by
  cases b with
  | nil =>
    have hend : (a ++ []).utf8Encode[byteSize a]? = none := by
      rw [getElem?_utf8Encode, List.append_nil, ← length_flatMap_utf8EncodeChar]
      exact List.getElem?_eq_none (Nat.le_refl _)
    rw [byteAt?, hend]
    exact ⟨rfl, fun _ _ => rfl⟩
  | cons c rest =>
    obtain ⟨byte, hmem, hbyte⟩ := exists_byte_mem a rest c (Nat.le_refl _)
      (Nat.lt_add_of_pos_right c.utf8Size_pos)
    rw [byteAt?, hbyte]
    exact alikeInAscii_of_mem hmem

/-- In front of it, the last byte is as good as the last character. -/
theorem alikeInAscii_byteBefore? (a b : List Char) :
    AlikeInAscii (byteBefore? (a ++ b).utf8Encode (byteSize a)) a.getLast? := by
  obtain rfl | ⟨a, c, rfl⟩ := List.eq_nil_or_concat a
  · exact ⟨rfl, fun _ _ => rfl⟩
  · have hpos := c.utf8Size_pos
    have hle : byteSize a ≤ byteSize a + c.utf8Size - 1 := by omega
    obtain ⟨byte, hmem, hbyte⟩ := exists_byte_mem a b c hle (by omega)
    rw [List.concat_eq_append, byteSize_concat, List.append_assoc, List.singleton_append,
      List.getLast?_concat, byteBefore?, if_neg (by omega), byteAt?, hbyte]
    exact alikeInAscii_of_mem hmem

end ScanRules
