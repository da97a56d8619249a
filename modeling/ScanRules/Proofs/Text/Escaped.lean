import ScanRules.Text.Escaped

/-!
# Reading escaped text

Escaped text is written without anything between its characters, and a character takes up one to
ten places in it. All the same no two texts have the same escaped form, and a quote in it can be
told from one that stands around it.

- `hexValue_hexDigits`: a number is the value of its digits.
- `readEscaped?`, `readEscaped?_escapeChar`: the first character of an escaped text can be read off.
- `flatMap_escapeChar_inj`: the escaped form determines the text.
- `getLast?_of_flatMap_escapeChar`: inside of an escaped text, a quote comes right behind a backslash.
- `append_quote_inj`: so the quote in front of an escaped text is found from the end.
-/

namespace ScanRules

/-! ## Numbers -/

theorem hexDigit?_digitChar {d : Nat} (h : d < 16) : hexDigit? d.digitChar = some d := by
  have hdigits : ∀ d < 16, hexDigit? d.digitChar = some d := by decide
  exact hdigits d h

theorem isHexDigit_of_mem_hexDigits {n : Nat} {c : Char} (h : c ∈ hexDigits n) : isHexDigit c := by
  have hdigit : ∀ {d : Nat}, d < 16 → isHexDigit d.digitChar := by
    intro d hd
    rw [isHexDigit, hexDigit?_digitChar hd, Option.isSome_some]
  induction n using Nat.strongRecOn with
  | _ n ih =>
    rw [hexDigits, Nat.toDigits_eq_if (by decide)] at h
    split at h
    · next hn =>
      obtain rfl := List.mem_singleton.1 h
      exact hdigit hn
    · next hn =>
      rcases List.mem_append.1 h with hfront | hlast
      · exact ih (n / 16) (by omega) hfront
      · obtain rfl := List.mem_singleton.1 hlast
        exact hdigit (Nat.mod_lt _ (by decide))

/-- The value of digits, by induction on the digits from the last one on. -/
theorem hexValue_hexDigits (n : Nat) : hexValue (hexDigits n) = n := by
  induction n using Nat.strongRecOn with
  | _ n ih =>
    rw [hexDigits, Nat.toDigits_eq_if (by decide)]
    split
    · next hn =>
      rw [hexValue, List.foldl_cons, List.foldl_nil, hexDigit?_digitChar hn]
      show 16 * 0 + n = n
      omega
    · next hn =>
      have hfront : hexValue (Nat.toDigits 16 (n / 16)) = n / 16 := ih (n / 16) (by omega)
      unfold hexValue at hfront ⊢
      rw [List.foldl_append, hfront, List.foldl_cons, List.foldl_nil,
        hexDigit?_digitChar (Nat.mod_lt _ (by decide))]
      exact Nat.div_add_mod n 16

/-! ## Characters -/

/-- What a letter behind a backslash stands for. -/
def escapedBy : Char → Char
  | 't' => '\t'
  | 'r' => '\r'
  | 'n' => '\n'
  | c => c

/-- The first character of an escaped text, and what follows it. -/
def readEscaped? : List Char → Option (Char × List Char)
  | [] => none
  | '\\' :: 'u' :: '{' :: rest =>
    some (Char.ofNat (hexValue (rest.takeWhile isHexDigit)), (rest.dropWhile isHexDigit).tail)
  | '\\' :: c :: rest => some (escapedBy c, rest)
  | c :: rest => some (c, rest)

theorem readEscaped?_of_ne {c : Char} (h : c ≠ '\\') (rest : List Char) :
    readEscaped? (c :: rest) = some (c, rest) := by
  unfold readEscaped?
  split <;> simp_all

theorem readEscaped?_escapeNumber (c : Char) (rest : List Char) :
    readEscaped? (escapeNumber c ++ rest) = some (c, rest) := by
  have hdigits : ∀ d ∈ hexDigits c.toNat, isHexDigit d := fun _ => isHexDigit_of_mem_hexDigits
  have hbrace : isHexDigit '}' = false := by decide
  have hshape : escapeNumber c ++ rest =
      '\\' :: 'u' :: '{' :: (hexDigits c.toNat ++ '}' :: rest) := by
    simp [escapeNumber]
  rw [hshape, readEscaped?, List.takeWhile_append_of_pos hdigits,
    List.dropWhile_append_of_pos hdigits, List.takeWhile_cons_of_neg (by simp [hbrace]),
    List.dropWhile_cons_of_neg (by simp [hbrace]), List.append_nil, hexValue_hexDigits,
    Char.ofNat_toNat, List.tail_cons]

/-- A character is read off its escaped form, whatever follows. -/
theorem readEscaped?_escapeChar (c : Char) (rest : List Char) :
    readEscaped? (escapeChar c ++ rest) = some (c, rest) := by
  unfold escapeChar
  split
  iterate 6 rfl
  next hbackslash =>
    split
    · exact readEscaped?_of_ne hbackslash rest
    · exact readEscaped?_escapeNumber _ rest

/-- Different texts have different escaped forms. -/
theorem flatMap_escapeChar_inj {a b : List Char}
    (h : a.flatMap escapeChar = b.flatMap escapeChar) : a = b := by
  induction a generalizing b with
  | nil =>
    cases b with
    | nil => rfl
    | cons d b =>
      have hread := readEscaped?_escapeChar d (b.flatMap escapeChar)
      rw [← List.flatMap_cons, ← h] at hread
      cases hread
  | cons c a ih =>
    have hread := readEscaped?_escapeChar c (a.flatMap escapeChar)
    rw [← List.flatMap_cons, h] at hread
    cases b with
    | nil => cases hread
    | cons d b =>
      rw [List.flatMap_cons, readEscaped?_escapeChar] at hread
      obtain ⟨rfl, hrest⟩ := Prod.mk.inj (Option.some.inj hread)
      rw [ih hrest.symm]

/-! ## Quotes -/

theorem eq_of_quote_mem_escapeChar {c : Char} (h : '\'' ∈ escapeChar c) : c = '\'' := by
  have hnumber : ∀ d : Char, '\'' ∉ escapeNumber d := by
    intro d hd
    simp only [escapeNumber, List.mem_append, List.mem_cons, List.not_mem_nil, or_false] at hd
    obtain (hd | hd) | hd := hd
    · revert hd
      decide
    · exact absurd (isHexDigit_of_mem_hexDigits hd) (by decide)
    · revert hd
      decide
  unfold escapeChar at h
  split at h
  -- of the letters behind backslashes only the fourth is a quote
  case h_4 => rfl
  case h_7 =>
    split at h
    · exact (List.mem_singleton.1 h).symm
    · exact absurd h (hnumber _)
  all_goals exact absurd h (by decide)

/-- The quote in the escaped form of a character has only a backslash in front of it. -/
theorem eq_of_escapeChar_eq_append {c : Char} {a b : List Char}
    (h : escapeChar c = a ++ '\'' :: b) : a = ['\\'] := by
  obtain rfl := eq_of_quote_mem_escapeChar (h ▸ List.mem_append_right a List.mem_cons_self)
  have hquote : escapeChar '\'' = ['\\'] ++ '\'' :: [] := rfl
  rw [hquote] at h
  match a, h with
  | [], h => cases h
  | [d], h => exact congrArg (fun e => [e]) (List.cons.inj h).1.symm
  | _ :: _ :: a, h => simp at h

/-- In an escaped text, every quote comes right behind a backslash. -/
theorem getLast?_of_flatMap_escapeChar {text a b : List Char}
    (h : text.flatMap escapeChar = a ++ '\'' :: b) : a.getLast? = some '\\' := by
  induction text generalizing a with
  | nil => simp at h
  | cons c text ih =>
    rw [List.flatMap_cons] at h
    obtain ⟨more, rfl, hmore⟩ | ⟨more, hc, hmore⟩ := List.append_eq_append_iff.1 h
    · rw [List.getLast?_append, ih hmore, Option.some_or]
    · cases more with
      | nil =>
        -- the quote would be the first place of the rest, with nothing in front of it there
        have hfirst := ih (a := []) hmore.symm
        cases hfirst
      | cons d more =>
        obtain ⟨rfl, -⟩ := List.cons.inj hmore
        rw [eq_of_escapeChar_eq_append hc]
        rfl

/-- The quote in front of an escaped text is the last one that does not come behind a backslash. So
it is the same one however the whole is split. -/
theorem append_quote_inj {front front' text text' : List Char}
    (hfront : front.getLast? ≠ some '\\') (hfront' : front'.getLast? ≠ some '\\')
    (h : front ++ '\'' :: text.flatMap escapeChar = front' ++ '\'' :: text'.flatMap escapeChar) :
    front = front' ∧ text = text' := by
  have hbetween : ∀ {front more text text' : List Char}, (front ++ more).getLast? ≠ some '\\' →
      '\'' :: text.flatMap escapeChar = more ++ '\'' :: text'.flatMap escapeChar → more = [] := by
    intro front more text text' hlast heq
    cases more with
    | nil => rfl
    | cons d more =>
      -- what stands between the two quotes belongs to the escaped text, so it ends in a backslash
      obtain ⟨-, htext⟩ := List.cons.inj heq
      refine absurd ?_ hlast
      rw [List.getLast?_append, List.getLast?_cons, getLast?_of_flatMap_escapeChar htext]
      rfl
  obtain ⟨more, rfl, hmore⟩ | ⟨more, rfl, hmore⟩ := List.append_eq_append_iff.1 h
  · obtain rfl := hbetween hfront' hmore
    exact ⟨(List.append_nil _).symm, flatMap_escapeChar_inj (List.cons.inj hmore).2⟩
  · obtain rfl := hbetween hfront hmore
    exact ⟨List.append_nil _, flatMap_escapeChar_inj (List.cons.inj hmore).2.symm⟩

end ScanRules
