import ScanRules.Proofs.Json.Written

/-!
# Reading numbers as they are written

What a number is read as, if it is not refused for its size, does not depend on what follows it.

- `Json.Takes`: reading takes a text from the front of whatever follows it.
- `Json.exists_takes_readNumber`: this holds of numbers.
- `Json.skipNumber_chars`: any number is passed over.
-/

namespace ScanRules.Json

open Fault

/-- Reading takes a text off and gives the same whatever follows it, or always fails. -/
def Takes {α : Type} (read : List Char → Except Fault (α × List Char)) (text : List Char)
    (a? : Option α) : Prop :=
  ∀ rest, Follows rest → (read (text ++ rest)).toOption = a?.map (·, rest)

variable {rest : List Char} {negative : Bool} {s : Significand}

theorem Follows.ne (h : Follows rest) {c : Char} (hc : isSpace c = false)
    (hne : c ≠ ',' ∧ c ≠ ']' ∧ c ≠ '}') : rest.head? ≠ some c := by
  intro hhead
  rcases h c hhead with hspace | rfl | rfl | rfl
  · cases hc.symm.trans hspace
  · exact hne.1 rfl
  · exact hne.2.1 rfl
  · exact hne.2.2 rfl

/-! ## Digits -/

theorem Digits.exists_cons (ds : Digits) :
    ∃ c more, ds.1 = c :: more ∧ c.isDigit ∧ ∀ d ∈ more, d.isDigit := by
  obtain ⟨digits, hne, hdigits⟩ := ds
  obtain ⟨c, more, rfl⟩ := List.exists_cons_of_ne_nil hne
  obtain ⟨hc, hmore⟩ := List.forall_mem_cons.1 hdigits
  exact ⟨c, more, rfl, hc, hmore⟩

theorem spanDigits_digits {ds : List Char} (hds : ∀ d ∈ ds, d.isDigit) (h : Follows rest) :
    spanDigits (ds ++ rest) = (ds, rest) :=
  spanDigits_append hds h.isDigit

/-- Reading a power stops within the digits if it grows too large, and behind them otherwise, by
induction on the digits. -/
theorem exists_readPower (n : Nat) {ds : List Char} (hds : ∀ d ∈ ds, d.isDigit) :
    ∃ m more, (∀ d ∈ more, d.isDigit) ∧ (m < UInt32.size / 2 → more = []) ∧
      ∀ rest, Follows rest → readPower n (ds ++ rest) = (m, more ++ rest) := by
  induction ds generalizing n with
  | nil =>
    refine ⟨n, [], List.forall_mem_nil _, fun _ => rfl, fun rest hrest => ?_⟩
    cases rest with
    | nil => rfl
    | cons c rest =>
      rw [List.nil_append, readPower, if_neg (by simp [hrest.isDigit c rfl])]
  | cons c ds ih =>
    obtain ⟨hc, hmore⟩ := List.forall_mem_cons.1 hds
    by_cases hsmall : 10 * n + (c.toNat - 48) < UInt32.size / 2
    · obtain ⟨m, more, hdigits, hend, hread⟩ := ih (10 * n + (c.toNat - 48)) hmore
      refine ⟨m, more, hdigits, hend, fun rest hrest => ?_⟩
      rw [List.cons_append, readPower, if_pos hc]
      exact (if_pos hsmall).trans (hread rest hrest)
    · refine ⟨10 * n + (c.toNat - 48), ds, hmore, fun h => absurd h hsmall, fun rest _ => ?_⟩
      rw [List.cons_append, readPower, if_pos hc]
      exact if_neg hsmall

/-! ## Parts of numbers -/

theorem toOption_fractionAt (negative : Bool) (x? : Option Binary64) (rest : List Char) :
    (fractionAt negative x? rest).toOption = (x?.map (Scalar.fraction negative)).map (·, rest) := by
  cases x? <;> rfl

theorem exists_takes_readExponentDigits (down : Bool) (ds : Digits) :
    ∃ v?, Takes (readExponentDigits negative down s) ds.1 v? := by
  obtain ⟨c, more, hds, hc, hmore⟩ := ds.exists_cons
  obtain ⟨m, left, hleft, hend, hpower⟩ := exists_readPower 0 (List.forall_mem_cons.2 ⟨hc, hmore⟩)
  rw [hds]
  by_cases hsmall : m < UInt32.size / 2
  · refine ⟨(s.fraction? (if down then -m else m)).map (.fraction negative), fun rest hrest => ?_⟩
    have hread := hpower rest hrest
    rw [hend hsmall] at hread
    rw [List.cons_append] at hread ⊢
    rw [readExponentDigits, if_pos hc, hread]
    simp only [if_pos hsmall]
    exact toOption_fractionAt _ _ _
  · by_cases hzero : s.value = 0 ∨ down
    · refine ⟨some (.fraction negative .zero), fun rest hrest => ?_⟩
      have hread := hpower rest hrest
      have hspan := spanDigits_digits hleft hrest
      rw [List.cons_append] at hread ⊢
      rw [readExponentDigits, if_pos hc, hread]
      simp only [if_neg hsmall, if_pos hzero, hspan]
      rfl
    · refine ⟨none, fun rest hrest => ?_⟩
      have hread := hpower rest hrest
      rw [List.cons_append] at hread ⊢
      rw [readExponentDigits, if_pos hc, hread]
      simp only [if_neg hsmall, if_neg hzero]
      rfl

theorem exponentSign_signChars (e : Exponent) (rest : List Char) :
    exponentSign (e.signChars ++ (e.digits.1 ++ rest)) =
      (e.sign.getD false, e.digits.1 ++ rest) := by
  obtain ⟨c, more, hds, hc, -⟩ := e.digits.exists_cons
  unfold Exponent.signChars
  cases e.sign with
  | none =>
    show exponentSign (e.digits.1 ++ rest) = _
    rw [hds]
    unfold exponentSign
    split
    · next heq => exact absurd (List.cons.inj heq).1 (ne_of_isDigit hc rfl)
    · next heq => exact absurd (List.cons.inj heq).1 (ne_of_isDigit hc rfl)
    · rfl
  | some minus => cases minus <;> rfl

theorem exists_takes_readExponent (e : Exponent) :
    ∃ v?, Takes (readExponent negative s) (e.signChars ++ e.digits.1) v? := by
  obtain ⟨v?, hv⟩ : ∃ v?, Takes (readExponentDigits negative (e.sign.getD false) s) e.digits.1 v? :=
    exists_takes_readExponentDigits _ _
  refine ⟨v?, fun rest hrest => ?_⟩
  rw [List.append_assoc, readExponent, exponentSign_signChars]
  exact hv rest hrest

theorem exists_takes_readScale (e? : Option Exponent) :
    ∃ v?, Takes (readScale negative s) (e?.elim [] Exponent.chars) v? := by
  cases e? with
  | none =>
    refine ⟨(s.fraction? 0).map (.fraction negative), fun rest hrest => ?_⟩
    show (readScale negative s rest).toOption = _
    unfold readScale
    split
    · exact absurd rfl (hrest.ne (c := 'e') rfl (by decide))
    · exact absurd rfl (hrest.ne (c := 'E') rfl (by decide))
    · exact toOption_fractionAt _ _ _
  | some e =>
    obtain ⟨v?, hv⟩ : ∃ v?, Takes (readExponent negative s) (e.signChars ++ e.digits.1) v? :=
      exists_takes_readExponent e
    refine ⟨v?, fun rest hrest => ?_⟩
    rw [← hv rest hrest]
    show (readScale negative s (e.chars ++ rest)).toOption = _
    unfold Exponent.chars
    cases e.capital <;> rfl

/-- An exponent does not go on with the digits in front of it. -/
theorem isDigit_scale (e? : Option Exponent) (hrest : Follows rest) :
    ∀ c, (e?.elim [] Exponent.chars ++ rest).head? = some c → c.isDigit = false := by
  intro c hc
  cases e? with
  | none => exact hrest.isDigit c hc
  | some e =>
    obtain rfl := Option.some.inj hc
    cases e.capital <;> rfl

/-- Nor does a point. -/
theorem isDigit_tail (n : Numeral) (hrest : Follows rest) :
    ∀ c, (n.tail ++ rest).head? = some c → c.isDigit = false := by
  intro c hc
  unfold Numeral.tail at hc
  cases hf : n.fraction with
  | some digits =>
    rw [hf] at hc
    obtain rfl := Option.some.inj hc
    rfl
  | none =>
    rw [hf] at hc
    exact isDigit_scale n.exponent hrest c hc

theorem exists_takes_readTail (n : Numeral) : ∃ v?, Takes (readTail negative s) n.tail v? := by
  unfold Numeral.tail
  cases n.fraction with
  | some digits =>
    obtain ⟨c, more, hds, hc, hmore⟩ := digits.exists_cons
    obtain ⟨v?, hv⟩ : ∃ v?, Takes (readScale negative
        (digits.1.foldl .addFraction { s with full := false }))
        (n.exponent.elim [] Exponent.chars) v? := exists_takes_readScale n.exponent
    refine ⟨v?, fun rest hrest => ?_⟩
    rw [← hv rest hrest]
    have hspan := spanDigits_append digits.2.2 (isDigit_scale n.exponent hrest)
    show (readTail negative s
      ('.' :: (digits.1 ++ n.exponent.elim [] Exponent.chars) ++ rest)).toOption = _
    rw [List.cons_append, List.append_assoc, readTail, hspan, hds]
  | none =>
    cases n.exponent with
    | none =>
      refine ⟨((s.integer? negative).map Scalar.integer).or
        ((s.fraction? 0).map (.fraction negative)), fun rest hrest => ?_⟩
      show (readTail negative s rest).toOption = _
      unfold readTail
      split
      · exact absurd rfl (hrest.ne (c := '.') rfl (by decide))
      · exact absurd rfl (hrest.ne (c := 'e') rfl (by decide))
      · exact absurd rfl (hrest.ne (c := 'E') rfl (by decide))
      · cases s.integer? negative with
        | some i => rfl
        | none => exact toOption_fractionAt _ _ _
    | some e =>
      obtain ⟨v?, hv⟩ : ∃ v?, Takes (readExponent negative s) (e.signChars ++ e.digits.1) v? :=
        exists_takes_readExponent e
      refine ⟨v?, fun rest hrest => ?_⟩
      rw [← hv rest hrest]
      show (readTail negative s (e.chars ++ rest)).toOption = _
      unfold Exponent.chars
      cases e.capital <;> rfl

/-- A number behind its sign starts with its digits in front of the point, and a zero that it starts
with is all of them. -/
theorem Numeral.whole_append (n : Numeral) (hrest : Follows rest) :
    ∃ c more, n.whole.1 = c :: more ∧ c.isDigit ∧
      ¬ (c = '0' ∧ (more ++ (n.tail ++ rest)).head?.any Char.isDigit) ∧
      spanDigits (more ++ (n.tail ++ rest)) = (more, n.tail ++ rest) := by
  obtain ⟨c, more, hds, hc, hmore⟩ := n.whole.exists_cons
  refine ⟨c, more, hds, hc, ?_, spanDigits_append hmore (isDigit_tail n hrest)⟩
  rintro ⟨rfl, hany⟩
  have hleading := n.leading
  rw [hds] at hleading
  obtain rfl : more = [] := List.tail_eq_of_cons_eq (hleading rfl)
  obtain ⟨d, hd, hdigit⟩ := (Option.any_eq_true ..).1 hany
  rw [isDigit_tail n hrest d hd] at hdigit
  cases hdigit

theorem exists_takes_readUnsigned (n : Numeral) :
    ∃ v?, Takes (readUnsigned negative) (n.whole.1 ++ n.tail) v? := by
  obtain ⟨v?, hv⟩ : ∃ v?, Takes (readTail negative (.ofWhole n.whole.1)) n.tail v? :=
    exists_takes_readTail n
  refine ⟨v?, fun rest hrest => ?_⟩
  obtain ⟨c, more, hds, hc, hleading, hspan⟩ := n.whole_append hrest
  rw [← hv rest hrest, List.append_assoc, hds, List.cons_append, readUnsigned, hc, Bool.not_true,
    if_neg Bool.false_ne_true, if_neg hleading, hspan]

/-- What a number is read as does not depend on what follows it. -/
theorem exists_takes_readNumber (n : Numeral) : ∃ v?, Takes readNumber n.chars v? := by
  obtain ⟨v?, hv⟩ : ∃ v?, Takes (readUnsigned n.negative) (n.whole.1 ++ n.tail) v? :=
    exists_takes_readUnsigned n
  refine ⟨v?, fun rest hrest => ?_⟩
  rw [← hv rest hrest]
  unfold Numeral.chars
  cases n.negative with
  | true => rfl
  | false =>
    -- the first digit is not a sign
    obtain ⟨c, more, hds, hc, -, -⟩ := n.whole_append hrest
    have hsign := readNumber_of_isDigit hc (more ++ n.tail ++ rest)
    rw [hds]
    exact congrArg Except.toOption hsign

/-! ## Numbers that are passed over -/

theorem skipExponent_chars (e : Exponent) (hrest : Follows rest) :
    skipExponent (e.signChars ++ (e.digits.1 ++ rest)) = .ok rest := by
  obtain ⟨c, more, hds, hc, hmore⟩ := e.digits.exists_cons
  have hspan := spanDigits_digits (List.forall_mem_cons.2 ⟨hc, hmore⟩) hrest
  rw [skipExponent, exponentSign_signChars, hds]
  simp only [List.cons_append, List.head?_cons, Option.any_some, hc, if_true] at hspan ⊢
  rw [hspan]

theorem skipScale_chars (e? : Option Exponent) (hrest : Follows rest) :
    skipScale (e?.elim [] Exponent.chars ++ rest) = .ok rest := by
  cases e? with
  | none =>
    show skipScale rest = _
    unfold skipScale
    split
    · exact absurd rfl (hrest.ne (c := 'e') rfl (by decide))
    · exact absurd rfl (hrest.ne (c := 'E') rfl (by decide))
    · rfl
  | some e =>
    have hskip := skipExponent_chars e hrest
    rw [← List.append_assoc] at hskip
    show skipScale (e.chars ++ rest) = _
    unfold Exponent.chars
    cases e.capital <;> exact hskip

theorem skipTail_chars (n : Numeral) (hrest : Follows rest) :
    skipTail (n.tail ++ rest) = .ok rest := by
  have hscale := skipScale_chars n.exponent hrest
  unfold Numeral.tail
  cases n.fraction with
  | some digits =>
    obtain ⟨c, more, hds, hc, hmore⟩ := digits.exists_cons
    have hspan := spanDigits_append digits.2.2 (isDigit_scale n.exponent hrest)
    show skipTail ('.' :: (digits.1 ++ n.exponent.elim [] Exponent.chars) ++ rest) = _
    rw [List.cons_append, List.append_assoc, skipTail, hspan, hds]
    exact hscale
  | none =>
    show skipTail (n.exponent.elim [] Exponent.chars ++ rest) = _
    cases he : n.exponent with
    | some e =>
      rw [he] at hscale
      show skipTail (e.chars ++ rest) = _
      rw [← hscale]
      show skipTail (e.chars ++ rest) = skipScale (e.chars ++ rest)
      unfold Exponent.chars
      cases e.capital <;> rfl
    | none =>
      rw [he] at hscale
      show skipTail rest = _
      unfold skipTail
      split
      · exact absurd rfl (hrest.ne (c := '.') rfl (by decide))
      · exact hscale

/-- A number is passed over, whatever its size. -/
theorem skipNumber_chars (n : Numeral) (hrest : Follows rest) :
    skipNumber (n.chars ++ rest) = .ok rest := by
  obtain ⟨c, more, hds, hc, hleading, hspan⟩ := n.whole_append hrest
  have hunsigned : skipUnsigned (n.whole.1 ++ n.tail ++ rest) = .ok rest := by
    rw [List.append_assoc, hds, List.cons_append, skipUnsigned, hc, Bool.not_true,
      if_neg Bool.false_ne_true, if_neg hleading, hspan]
    exact skipTail_chars n hrest
  unfold Numeral.chars
  cases n.negative with
  | true => exact hunsigned
  | false =>
    show skipNumber (n.whole.1 ++ n.tail ++ rest) = _
    rw [← hunsigned, hds, List.cons_append, List.cons_append]
    unfold skipNumber
    split
    · next heq => exact absurd (List.cons.inj heq).1 (ne_of_isDigit hc rfl)
    · rfl

end ScanRules.Json
