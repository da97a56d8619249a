import ScanRules.Proofs.Json.Written

/-!
# Reading texts as they are written

- `Json.readText_quoted`: reading a text gives what its pieces make up, if they make up anything.
- `Json.skipText_quoted`: passing over a text only asks for its pieces.
-/

namespace ScanRules.Json

open Fault

variable {rest : List Char}

/-! ## Steps of reading -/

theorem toOption_readText_escape (text : List Char) :
    (readText ('\\' :: text)).toOption = (readEscape text).toOption.bind fun (c, rest) =>
      (readText rest).toOption.map fun (cs, rest) => (c :: cs, rest) := by
  rw [readText]
  split
  · next f hf => rw [hf]; rfl
  · next c more hc =>
    rw [hc]
    show _ = (readText more).toOption.map _
    cases readText more with
    | error f => rfl
    | ok p => rfl

theorem toOption_readText_plain {c : Char} (h : c ≠ '"' ∧ c ≠ '\\' ∧ ¬ c.toNat < 0x20)
    (text : List Char) :
    (readText (c :: text)).toOption =
      (readText text).toOption.map fun (cs, rest) => (c :: cs, rest) := by
  rw [readText, if_neg h.2.2]
  · cases readText text <;> rfl
  · exact h.1
  · exact h.2.1

theorem readUnit_chars (u : CodeUnit) (rest : List Char) :
    readUnit (u.chars ++ rest) = .ok (u.value, rest) := by
  obtain ⟨⟨a, b, c, d⟩, h⟩ := u
  exact if_pos h

/-- A number is read by whether it is half of a surrogate pair. -/
theorem readEscape_unit (u : CodeUnit) (rest : List Char) :
    readEscape ('u' :: u.chars ++ rest) =
      if u.IsHigh then readLow u.value rest
      else if u.IsLow then .error (here .loneSurrogate rest)
      else .ok (Char.ofNat u.value, rest) := by
  have hletter : letterEscape? 'u' = none := rfl
  simp only [List.cons_append, readEscape, hletter, if_true, readUnit_chars]
  rfl

/-- The first half of a surrogate pair goes on with the second. -/
theorem toOption_readLow_unit (u v : CodeUnit) (rest : List Char) :
    (readLow u.value ('\\' :: 'u' :: v.chars ++ rest)).toOption =
      if v.IsLow then some (pairChar u v, rest) else none := by
  have hlow : readLow u.value ('\\' :: 'u' :: v.chars ++ rest) =
      if v.IsLow then .ok (pairChar u v, rest) else .error (here .loneSurrogate rest) := by
    simp only [List.cons_append, readLow, readUnit_chars]
    rfl
  rw [hlow]
  split
  · rfl
  · rfl

/-- Anything else behind it makes it stand for nothing. -/
theorem toOption_readLow_none {pieces : List Piece}
    (h : ∀ v more, pieces = .unit v :: more → False) (n : Nat) (rest : List Char) :
    (readLow n (quoted pieces ++ rest)).toOption = none := by
  match pieces with
  | [] => rfl
  | .plain c hc :: more =>
    show (readLow n (c :: (more.flatMap Piece.chars ++ ['"'] ++ rest))).toOption = none
    unfold readLow
    split
    · rfl
    · rfl
    · next heq => exact absurd (List.cons.inj heq).1 hc.2.1
    · rfl
    · rfl
  | .letter c d hd :: more =>
    show (readLow n ('\\' :: c :: (more.flatMap Piece.chars ++ ['"'] ++ rest))).toOption = none
    unfold readLow
    split
    · rfl
    · rfl
    · next heq =>
      -- the letter of a number is no escape of its own
      obtain rfl := (List.cons.inj (List.cons.inj heq).2).1
      cases hd
    · rfl
    · rfl
  | .unit v :: more => exact (h v more rfl).elim

/-! ## Texts -/

theorem quoted_cons (piece : Piece) (pieces : List Piece) (rest : List Char) :
    quoted (piece :: pieces) ++ rest = piece.chars ++ (quoted pieces ++ rest) := by
  simp [quoted]

/-- Reading a text gives what its pieces make up, by induction on the pieces. -/
theorem readText_quoted (pieces : List Piece) (rest : List Char) :
    (readText (quoted pieces ++ rest)).toOption = (decodePieces pieces).map (·, rest) := by
  fun_induction decodePieces pieces with
  | case1 =>
    show (readText ('"' :: rest)).toOption = _
    rw [readText]
    rfl
  | case2 c hc ps ih =>
    rw [quoted_cons]
    show (readText (c :: (quoted ps ++ rest))).toOption = _
    rw [toOption_readText_plain hc, ih]
    cases decodePieces ps <;> rfl
  | case3 c d hd ps ih =>
    rw [quoted_cons]
    show (readText ('\\' :: c :: (quoted ps ++ rest))).toOption = _
    rw [toOption_readText_escape, readEscape_of_letter hd]
    show (readText _).toOption.map _ = _
    rw [ih]
    cases decodePieces ps <;> rfl
  | case4 u v ps hhigh hlow ih =>
    rw [quoted_cons, quoted_cons]
    show (readText ('\\' :: ('u' :: u.chars ++ ('\\' :: 'u' :: v.chars ++ _)))).toOption = _
    rw [toOption_readText_escape, readEscape_unit, if_pos hhigh, toOption_readLow_unit, if_pos hlow]
    show (readText _).toOption.map _ = _
    rw [ih]
    cases decodePieces ps <;> rfl
  | case5 u v ps hhigh hlow =>
    rw [quoted_cons, quoted_cons]
    show (readText ('\\' :: ('u' :: u.chars ++ ('\\' :: 'u' :: v.chars ++ _)))).toOption = _
    rw [toOption_readText_escape, readEscape_unit, if_pos hhigh, toOption_readLow_unit, if_neg hlow]
    rfl
  | case6 u v ps hhigh hlow =>
    rw [quoted_cons]
    show (readText ('\\' :: ('u' :: u.chars ++ _))).toOption = _
    rw [toOption_readText_escape, readEscape_unit, if_neg hhigh, if_pos hlow]
    rfl
  | case7 u v ps hhigh hlow ih =>
    rw [quoted_cons]
    show (readText ('\\' :: ('u' :: u.chars ++ _))).toOption = _
    rw [toOption_readText_escape, readEscape_unit, if_neg hhigh, if_neg hlow]
    show (readText _).toOption.map _ = _
    rw [ih]
    cases decodePieces (.unit v :: ps) <;> rfl
  | case8 u ps hps hhalf =>
    rw [quoted_cons]
    show (readText ('\\' :: ('u' :: u.chars ++ _))).toOption = _
    rw [toOption_readText_escape, readEscape_unit]
    by_cases hhigh : u.IsHigh
    · rw [if_pos hhigh, toOption_readLow_none hps]
      rfl
    · rw [if_neg hhigh, if_pos (hhalf.resolve_left hhigh)]
      rfl
  | case9 u ps hps hhalf ih =>
    obtain ⟨hhigh, hlow⟩ := not_or.1 hhalf
    rw [quoted_cons]
    show (readText ('\\' :: ('u' :: u.chars ++ _))).toOption = _
    rw [toOption_readText_escape, readEscape_unit, if_neg hhigh, if_neg hlow]
    show (readText _).toOption.map _ = _
    rw [ih]
    cases decodePieces ps <;> rfl

theorem skipText_of_skipEscape {text more : List Char} (h : skipEscape text = .ok more) :
    skipText ('\\' :: text) = skipText more := by
  rw [skipText]
  split
  · next h' => cases h'.symm.trans h
  · next h' =>
    obtain rfl := Except.ok.inj (h'.symm.trans h)
    rfl

/-- A text is passed over whatever its pieces make up. -/
theorem skipText_quoted (pieces : List Piece) (rest : List Char) :
    skipText (quoted pieces ++ rest) = .ok rest := by
  induction pieces with
  | nil =>
    show skipText ('"' :: rest) = _
    rw [skipText]
  | cons piece pieces ih =>
    rw [quoted_cons]
    cases piece with
    | plain c hc =>
      show skipText (c :: (quoted pieces ++ rest)) = _
      rw [skipText, if_neg hc.2.2, ih]
      · exact hc.1
      · exact hc.2.1
    | letter c d hd =>
      have hskip : skipEscape (c :: (quoted pieces ++ rest)) = .ok (quoted pieces ++ rest) :=
        if_pos (by rw [hd]; rfl)
      exact (skipText_of_skipEscape hskip).trans ih
    | unit u =>
      have hskip : skipEscape ('u' :: u.chars ++ (quoted pieces ++ rest)) =
          .ok (quoted pieces ++ rest) := by
        have hletter : (letterEscape? 'u').isSome = false := rfl
        rw [List.cons_append, skipEscape, hletter, if_neg Bool.false_ne_true, if_pos rfl,
          readUnit_chars]
        rfl
      exact (skipText_of_skipEscape hskip).trans ih

end ScanRules.Json
