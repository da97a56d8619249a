import ScanRules.Proofs.Json.Numerals
import ScanRules.Proofs.Json.Pieces

/-!
# Passing over values

Any value is passed over, whatever is in it and however deep it is nested.

- `Json.skipValue`: what passing over a value does inside of open brackets.
- `Json.skipValue_chars`, `Json.skipRest_itemsChars`, `Json.skipRest_membersChars`: behind a value,
  and at the end of lists and objects, the brackets around it are still to be passed over.
- `Json.skip_chars`: a value is passed over.
-/

namespace ScanRules.Json

open Fault

/-- Passes over a value and what is left in the brackets around it. -/
def skipValue (enclosing : List Bracket) (text : List Char) : Except Fault (List Char) :=
  match skipOpening text with
  | .error f => .error f
  | .ok (b?, rest) => skipRest b?.isNone (b?.toList ++ enclosing) rest

theorem skip_eq_skipValue (text : List Char) : skip text = skipValue [] text := by
  cases h : skipOpening text with
  | error f => simp only [skip, skipValue, h]
  | ok p => simp only [skip, skipValue, h, List.append_nil]

variable {enclosing : List Bracket} {filled : Bool} {b : Bracket} {c : Char}
  {text more rest : List Char}

theorem skipRest_nil (filled : Bool) (text : List Char) : skipRest filled [] text = .ok text := by
  rw [skipRest]

theorem skipRest_of_close (h : dropSpace text = b.close :: rest) :
    skipRest filled (b :: enclosing) text = skipRest true enclosing rest := by
  rw [skipRest]
  split
  · next h' => cases h'.symm.trans h
  · next h' =>
    obtain ⟨rfl, rfl⟩ := List.cons.inj (h'.symm.trans h)
    rw [if_pos rfl]

/-- An item is a value behind its key, if it has one, and a comma, if one is in front of it. -/
theorem skipRest_of_item (filled : Bool) (b : Bracket) (enclosing : List Bracket)
    (h : dropSpace text = c :: rest) (hc : c ≠ b.close)
    (hcomma : filled = true → c = ',')
    (hkey : skipKey b (if filled then rest else c :: rest) = .ok more) :
    skipRest filled (b :: enclosing) text = skipValue (b :: enclosing) more := by
  have hitem : skipItem filled b c rest = skipOpening more := by
    unfold skipItem
    rw [hkey]
    split
    · next hmissing =>
      cases filled with
      | false => cases hmissing
      | true => simp [hcomma rfl] at hmissing
    · rfl
  rw [skipRest]
  split
  · next h' => cases h'.symm.trans h
  · next h' =>
    obtain ⟨rfl, rfl⟩ := List.cons.inj (h'.symm.trans h)
    rw [if_neg hc]
    unfold skipValue
    split
    · next f hf =>
      rw [← hitem, hf]
    · next p hp =>
      rw [← hitem, hp]

/-! ## Values -/

theorem dropWord_self (word rest : List Char) : dropWord word (word ++ rest) = .ok rest := by
  induction word with
  | nil => cases rest <;> rfl
  | cons c word ih => exact (if_pos rfl).trans ih

theorem skipScalar_number (n : Numeral) (hrest : Follows rest) :
    skipScalar (n.chars ++ rest) = .ok rest := by
  obtain ⟨c, more, hn, hc⟩ := n.exists_chars_eq
  rw [← skipNumber_chars n hrest, hn, List.cons_append]
  unfold skipScalar
  split
  · next h => cases h
  -- a sign or a digit starts nothing else
  iterate 4
    · next h =>
      obtain ⟨rfl, -⟩ := List.cons.inj h
      rcases hc with hc | hc <;> cases hc
  · next h =>
    obtain ⟨rfl, rfl⟩ := List.cons.inj h
    rw [if_pos hc]

theorem skipValue_of_scalar (hspace : dropSpace text = c :: more) (hlist : c ≠ '[')
    (hobject : c ≠ '{') (h : skipScalar (c :: more) = .ok rest) :
    skipValue enclosing text = skipRest true enclosing rest := by
  have hopen : skipOpening text = .ok (none, rest) := by
    unfold skipOpening
    rw [hspace]
    split
    · next heq => exact absurd (List.cons.inj heq).1 hlist
    · next heq => exact absurd (List.cons.inj heq).1 hobject
    · rw [h]
  unfold skipValue
  rw [hopen]
  rfl

theorem skipValue_of_list (hspace : dropSpace text = '[' :: rest) :
    skipValue enclosing text = skipRest false (.list :: enclosing) rest := by
  unfold skipValue skipOpening
  rw [hspace]
  rfl

theorem skipValue_of_object (hspace : dropSpace text = '{' :: rest) :
    skipValue enclosing text = skipRest false (.object :: enclosing) rest := by
  unfold skipValue skipOpening
  rw [hspace]
  rfl

/-- The key in front of a value is passed over. -/
theorem skipKey_object (k : Key) (s : Space) (rest : List Char) :
    skipKey .object (s.1 ++ '"' :: (quoted k.pieces ++ (k.after.1 ++ ':' :: rest))) = .ok rest := by
  have hspace : dropSpace (s.1 ++ '"' :: (quoted k.pieces ++ (k.after.1 ++ ':' :: rest))) =
      '"' :: (quoted k.pieces ++ (k.after.1 ++ ':' :: rest)) := dropSpace_append_cons s rfl _
  have hcolon : dropColon (k.after.1 ++ ':' :: rest) = .ok rest := by
    rw [dropColon, dropSpace_append_cons _ rfl]
    rfl
  simp only [skipKey, hspace, skipText_quoted, hcolon]

/-- White space in front of a value does not count. -/
theorem dropSpace_space_chars (s : Space) (w : Written) (rest : List Char) :
    dropSpace (s.1 ++ (w.chars ++ rest)) = w.chars ++ rest := by
  rw [dropSpace_append, dropSpace_chars]

mutual

/-- Behind a value, the brackets around it are still to be passed over. -/
theorem skipValue_chars : ∀ (w : Written) (enclosing : List Bracket) (s : Space)
    {rest : List Char}, Follows rest →
      skipValue enclosing (s.1 ++ (w.chars ++ rest)) = skipRest true enclosing rest
  | .null, _, s, rest, _ => by
    have hspace := dropSpace_space_chars s .null rest
    exact skipValue_of_scalar hspace (by decide) (by decide) (dropWord_self ['u', 'l', 'l'] rest)
  | .boolean true, _, s, rest, _ => by
    have hspace := dropSpace_space_chars s (.boolean true) rest
    exact skipValue_of_scalar hspace (by decide) (by decide) (dropWord_self ['r', 'u', 'e'] rest)
  | .boolean false, _, s, rest, _ => by
    have hspace := dropSpace_space_chars s (.boolean false) rest
    exact skipValue_of_scalar hspace (by decide) (by decide)
      (dropWord_self ['a', 'l', 's', 'e'] rest)
  | .number n, _, s, rest, hrest => by
    have hspace := dropSpace_space_chars s (.number n) rest
    have hskip := skipScalar_number n hrest
    obtain ⟨c, more, hn, hc⟩ := n.exists_chars_eq
    have hne : ∀ d : Char, d ≠ '-' → d.isDigit = false → c ≠ d := by
      rintro d hsign hdigit rfl
      rcases hc with rfl | hc
      · exact hsign rfl
      · exact ne_of_isDigit hc hdigit rfl
    have htext : (Written.number n).chars = c :: more := hn
    rw [htext] at hspace ⊢
    rw [hn] at hskip
    exact skipValue_of_scalar hspace (hne _ (by decide) rfl) (hne _ (by decide) rfl) hskip
  | .text pieces, _, s, rest, _ => by
    have hspace := dropSpace_space_chars s (.text pieces) rest
    exact skipValue_of_scalar hspace (by decide) (by decide) (skipText_quoted pieces rest)
  | .list inside items, enclosing, s, rest, _ => by
    have hspace : dropSpace (s.1 ++ ((Written.list inside items).chars ++ rest)) =
        '[' :: (inside.1 ++ (Written.itemsChars true items ++ ']' :: rest)) := by
      rw [dropSpace_space_chars]
      simp [Written.chars]
    exact (skipValue_of_list hspace).trans (skipRest_itemsChars items true enclosing inside rest)
  | .object inside members, enclosing, s, rest, _ => by
    have hspace : dropSpace (s.1 ++ ((Written.object inside members).chars ++ rest)) =
        '{' :: (inside.1 ++ (Written.membersChars true members ++ '}' :: rest)) := by
      rw [dropSpace_space_chars]
      simp [Written.chars]
    exact (skipValue_of_object hspace).trans
      (skipRest_membersChars members true enclosing inside rest)

/-- At the end of a list, the brackets around it are still to be passed over. -/
theorem skipRest_itemsChars : ∀ (items : List (Padded Written)) (first : Bool)
    (enclosing : List Bracket) (s : Space) (rest : List Char),
      skipRest (!first) (.list :: enclosing)
        (s.1 ++ (Written.itemsChars first items ++ ']' :: rest)) = skipRest true enclosing rest
  | [], _, _, s, _ => skipRest_of_close (dropSpace_append_cons s rfl _)
  | ⟨before, v, after⟩ :: items, first, enclosing, s, rest => by
    have hfollows := (follows_itemsChars items rest).space after
    have hvalue := fun s => skipValue_chars v (.list :: enclosing) s hfollows
    have hitems := skipRest_itemsChars items false enclosing after rest
    rw [Written.itemsChars_cons]
    cases first with
    | false =>
      have hspace : ∀ more, dropSpace (s.1 ++ ',' :: more) = ',' :: more :=
        dropSpace_append_cons s rfl
      have hitem := fun more => skipRest_of_item true .list enclosing (hspace more) (by decide)
        (fun _ => rfl) rfl
      exact (hitem _).trans ((hvalue before).trans hitems)
    | true =>
      obtain ⟨c, more, hv, -, hlist, -⟩ := v.exists_chars_eq
      have hspace : dropSpace (s.1 ++ (before.1 ++ (v.chars ++ (after.1 ++
          (Written.itemsChars false items ++ ']' :: rest))))) =
            c :: (more ++ (after.1 ++ (Written.itemsChars false items ++ ']' :: rest))) := by
        rw [dropSpace_append, dropSpace_space_chars, hv, List.cons_append]
      have hitem := skipRest_of_item false .list enclosing hspace hlist nofun rfl
      rw [← List.cons_append, ← hv] at hitem
      exact hitem.trans ((hvalue .none).trans hitems)

/-- At the end of an object, the brackets around it are still to be passed over. -/
theorem skipRest_membersChars : ∀ (members : List (Key × Padded Written)) (first : Bool)
    (enclosing : List Bracket) (s : Space) (rest : List Char),
      skipRest (!first) (.object :: enclosing)
        (s.1 ++ (Written.membersChars first members ++ '}' :: rest)) = skipRest true enclosing rest
  | [], _, _, s, _ => skipRest_of_close (dropSpace_append_cons s rfl _)
  | (k, ⟨before, v, after⟩) :: members, first, enclosing, s, rest => by
    have hfollows := (follows_membersChars members rest).space after
    have hvalue := skipValue_chars v (.object :: enclosing) before hfollows
    have hmembers := skipRest_membersChars members false enclosing after rest
    rw [Written.membersChars_cons]
    cases first with
    | false =>
      have hspace : ∀ more, dropSpace (s.1 ++ ',' :: more) = ',' :: more :=
        dropSpace_append_cons s rfl
      have hitem := fun more => skipRest_of_item true .object enclosing (hspace _) (by decide)
        (fun _ => rfl) (skipKey_object k k.before more)
      exact (hitem _).trans (hvalue.trans hmembers)
    | true =>
      have hspace : dropSpace (s.1 ++ (k.before.1 ++ '"' :: (quoted k.pieces ++ (k.after.1 ++
          ':' :: (before.1 ++ (v.chars ++ (after.1 ++ (Written.membersChars false members ++
            '}' :: rest)))))))) = '"' :: (quoted k.pieces ++ (k.after.1 ++
          ':' :: (before.1 ++ (v.chars ++ (after.1 ++ (Written.membersChars false members ++
            '}' :: rest)))))) := by
        rw [dropSpace_append, dropSpace_append_cons _ rfl]
      have hitem := skipRest_of_item false .object enclosing hspace (by decide) nofun
        (skipKey_object k .none _)
      exact hitem.trans (hvalue.trans hmembers)

end

/-- **Any value is passed over**, whatever is in it. -/
theorem skip_chars (w : Written) (s : Space) (hrest : Follows rest) :
    skip (s.1 ++ (w.chars ++ rest)) = .ok rest := by
  rw [skip_eq_skipValue, skipValue_chars w [] s hrest, skipRest_nil]

end ScanRules.Json
