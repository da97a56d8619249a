import Mathlib.Data.List.TakeWhile
import ScanRules.Json
import ScanRules.Json.Skip

/-!
# Reading back values without parts

- `Json.readText_escaped`: a text that has been escaped is read as it was.
- `Json.Closed`: what may follow a value. A number ends only where something follows that is no part
  of it.
- `Json.ofWhole_toDigits`: the decimal digits of a number make up the number.
- `Json.readNumber_integerText`: an integer that fits into 64 bits is read as it was.
-/

namespace ScanRules.Json

open Fault

/-! ## Texts -/

theorem readEscape_of_letter {c d : Char} (h : letterEscape? c = some d) (rest : List Char) :
    readEscape (c :: rest) = .ok (d, rest) := by
  simp only [readEscape, h]

/-- The number of a control character as it stands behind the letter of an escape. -/
def controlDigits (n : Nat) : List Char := ['0', '0', (n / 16).digitChar, (n % 16).digitChar]

theorem readUnit_controlDigits {n : Nat} (h : n < 0x20) (rest : List Char) :
    readUnit (controlDigits n ++ rest) = .ok (n, rest) := by
  have hdigits : ∀ n < 0x20, (controlDigits n).all isHexDigit ∧ hexValue (controlDigits n) = n := by
    decide
  obtain ⟨hall, hvalue⟩ := hdigits n h
  unfold controlDigits at hall hvalue ⊢
  simp only [List.cons_append, List.nil_append, readUnit, hall, if_true, hvalue]

/-- A control character is escaped by its number. -/
theorem readEscape_controlDigits {c : Char} (h : c.toNat < 0x20) (rest : List Char) :
    readEscape ('u' :: controlDigits c.toNat ++ rest) = .ok (c, rest) := by
  have hhigh : ¬ (0xD800 ≤ c.toNat ∧ c.toNat ≤ 0xDBFF) := by omega
  have hlow : ¬ (0xDC00 ≤ c.toNat ∧ c.toNat ≤ 0xDFFF) := by omega
  have hletter : letterEscape? 'u' = none := rfl
  simp only [List.cons_append, readEscape, hletter, if_true, readUnit_controlDigits h, if_neg hhigh,
    if_neg hlow, Char.ofNat_toNat]

theorem readText_of_readEscape {text rest rest' cs : List Char} {c : Char}
    (h : readEscape text = .ok (c, rest)) (hrest : readText rest = .ok (cs, rest')) :
    readText ('\\' :: text) = .ok (c :: cs, rest') := by
  rw [readText]
  split
  · next f hf => cases hf.symm.trans h
  · next d more hd =>
    obtain ⟨rfl, rfl⟩ := Prod.mk.inj (Except.ok.inj (hd.symm.trans h))
    rw [hrest]

/-- An escaped character is read as the character. -/
theorem readText_escapeChar {text rest cs : List Char} (c : Char)
    (h : readText text = .ok (cs, rest)) :
    readText (escapeChar c ++ text) = .ok (c :: cs, rest) := by
  unfold escapeChar
  split
  iterate 7 exact readText_of_readEscape (readEscape_of_letter rfl text) h
  · next hquote hslash _ _ _ _ _ =>
    have hshort : ∀ n < 0x10, ['0', '0', '0'] ++ hexDigits n = controlDigits n := by decide
    have hlong : ∀ n < 0x20, ¬ n < 0x10 → ['0', '0'] ++ hexDigits n = controlDigits n := by decide
    by_cases hcontrol : c.toNat < 0x20
    · -- either way, the number has four digits
      have hescape := readText_of_readEscape (readEscape_controlDigits hcontrol text) h
      by_cases hsmall : c.toNat < 0x10
      · rw [← hshort _ hsmall] at hescape
        rwa [if_pos hsmall]
      · rw [← hlong _ hcontrol hsmall] at hescape
        rwa [if_neg hsmall, if_pos hcontrol]
    · rw [if_neg (by omega), if_neg hcontrol, List.singleton_append, readText, if_neg hcontrol, h]
      · exact hquote
      · exact hslash

/-- A text that has been escaped is read as it was. -/
theorem readText_escaped (cs rest : List Char) :
    readText (cs.flatMap escapeChar ++ '"' :: rest) = .ok (cs, rest) := by
  induction cs with
  | nil => rw [List.flatMap_nil, List.nil_append, readText]
  | cons c cs ih =>
    rw [List.flatMap_cons, List.append_assoc]
    exact readText_escapeChar c ih

/-! ## Numbers -/

/-- What may follow a value: nothing, or one of the characters behind the values of lists and
objects. -/
def Closed (rest : List Char) : Prop :=
  ∀ c, rest.head? = some c → c = ',' ∨ c = ']' ∨ c = '}'

theorem addWhole_digitChar {n d : Nat} (hd : d < 10) (h : 10 * n + d < UInt64.size) :
    Significand.addWhole ⟨n, 0, false⟩ d.digitChar = ⟨10 * n + d, 0, false⟩ := by
  have hdigit : d.digitChar.toNat - 48 = d := by
    rw [Nat.toNat_digitChar_of_lt_ten hd]
    omega
  simp only [Significand.addWhole, Significand.extend?, hdigit, h, Bool.not_false, Bool.true_and,
    decide_true, if_true]

/-- The decimal digits of a number that fits into 64 bits make up the number, by induction on the
digits from the last one on. -/
theorem ofWhole_toDigits {n : Nat} (h : n < UInt64.size) :
    Significand.ofWhole (Nat.toDigits 10 n) = ⟨n, 0, false⟩ := by
  induction n using Nat.strongRecOn with
  | _ n ih =>
    by_cases hn : n < 10
    · rw [Nat.toDigits_of_lt_base hn]
      have hdigit := addWhole_digitChar (n := 0) hn (by omega)
      rwa [Nat.mul_zero, Nat.zero_add] at hdigit
    · have hdiv : 10 * (n / 10) + n % 10 = n := Nat.div_add_mod n 10
      have hfront := ih (n / 10) (by omega) (by omega)
      rw [Nat.toDigits_of_base_le (by decide) (Nat.not_lt.1 hn)]
      unfold Significand.ofWhole at hfront ⊢
      rw [List.foldl_append, hfront, List.foldl_cons, List.foldl_nil,
        addWhole_digitChar (Nat.mod_lt _ (by decide)) (by omega), hdiv]

/-- Only the number zero has a zero in front. -/
theorem head?_toDigits_ne {n : Nat} (h : 0 < n) : (Nat.toDigits 10 n).head? ≠ some '0' := by
  induction n using Nat.strongRecOn with
  | _ n ih =>
    by_cases hn : n < 10
    · rw [Nat.toDigits_of_lt_base hn]
      have hdigits : ∀ n < 10, 0 < n → [n.digitChar].head? ≠ some '0' := by decide
      exact hdigits n hn h
    · have hfront := ih (n / 10) (by omega) (by omega)
      rw [Nat.toDigits_of_base_le (by decide) (Nat.not_lt.1 hn), List.head?_append,
        Option.or_of_isSome (List.isSome_head?.2 Nat.toDigits_ne_nil)]
      exact hfront

theorem spanDigits_append {digits rest : List Char} (h : ∀ c ∈ digits, c.isDigit)
    (hrest : ∀ c, rest.head? = some c → c.isDigit = false) :
    spanDigits (digits ++ rest) = (digits, rest) := by
  have hnone : rest.takeWhile Char.isDigit = [] ∧ rest.dropWhile Char.isDigit = rest := by
    cases rest with
    | nil => exact ⟨rfl, rfl⟩
    | cons c rest => simp [hrest c rfl]
  rw [spanDigits, List.takeWhile_append_of_pos h, List.dropWhile_append_of_pos h, hnone.1, hnone.2,
    List.append_nil]

theorem isDigit_of_closed {rest : List Char} (h : Closed rest) :
    ∀ c, rest.head? = some c → c.isDigit = false := by
  intro c hc
  rcases h c hc with rfl | rfl | rfl <;> rfl

/-- Behind the digits of an integer there is nothing that belongs to a number. -/
theorem readTail_of_closed {negative : Bool} {s : Significand} {i : Int} {rest : List Char}
    (hi : s.integer? negative = some i) (hrest : Closed rest) :
    readTail negative s rest = .ok (.integer i, rest) := by
  unfold readTail
  split
  · exact absurd (hrest _ rfl) (by decide)
  · exact absurd (hrest _ rfl) (by decide)
  · exact absurd (hrest _ rfl) (by decide)
  · rw [hi]

theorem readUnsigned_toDigits {negative : Bool} {n : Nat} {i : Int} {rest : List Char}
    (hn : n < UInt64.size) (hi : Significand.integer? ⟨n, 0, false⟩ negative = some i)
    (hrest : Closed rest) :
    readUnsigned negative (Nat.toDigits 10 n ++ rest) = .ok (.integer i, rest) := by
  have hdigits : ∀ c ∈ Nat.toDigits 10 n, c.isDigit :=
    fun _ => Nat.isDigit_of_mem_toDigits (by decide) (by decide)
  have hwhole := ofWhole_toDigits hn
  have hzero : (Nat.toDigits 10 n).head? = some '0' → Nat.toDigits 10 n = ['0'] := by
    intro hhead
    obtain rfl : n = 0 := Nat.eq_zero_of_not_pos fun hpos => head?_toDigits_ne hpos hhead
    rfl
  match hds : Nat.toDigits 10 n with
  | [] => exact absurd hds Nat.toDigits_ne_nil
  | c :: ds =>
    rw [hds] at hdigits hwhole hzero
    obtain ⟨hc, hmore⟩ := List.forall_mem_cons.1 hdigits
    have hlead : ¬ (c = '0' ∧ (ds ++ rest).head?.any Char.isDigit) := by
      rintro ⟨rfl, hany⟩
      obtain rfl : ds = [] := List.tail_eq_of_cons_eq (hzero rfl)
      obtain ⟨d, hd, hdigit⟩ := (Option.any_eq_true ..).1 hany
      rw [isDigit_of_closed hrest d hd] at hdigit
      cases hdigit
    rw [List.cons_append, readUnsigned, hc, Bool.not_true, if_neg Bool.false_ne_true, if_neg hlead,
      spanDigits_append hmore (isDigit_of_closed hrest)]
    exact (congrArg (readTail negative · rest) hwhole).trans (readTail_of_closed hi hrest)

/-- A negative integer is that of its digits behind a sign. -/
theorem integer?_natAbs_of_neg {i : Int} (h : i < 0) (hlow : -(UInt64.size / 2 : Nat) ≤ i) :
    Significand.integer? ⟨i.natAbs, 0, false⟩ true = some i := by
  have hrange : 0 < i.natAbs ∧ i.natAbs ≤ UInt64.size / 2 := by omega
  have hvalue : -(i.natAbs : Int) = i := by omega
  simp only [Significand.integer?, Bool.not_true, Bool.false_eq_true, if_false, if_pos hrange,
    hvalue]

/-- Any other integer is that of its digits. -/
theorem integer?_natAbs_of_not_neg {i : Int} (h : ¬ i < 0) :
    Significand.integer? ⟨i.natAbs, 0, false⟩ false = some i := by
  have hvalue : (i.natAbs : Int) = i := by omega
  simp only [Significand.integer?, Bool.not_false, Bool.false_eq_true, if_false, if_true, hvalue]

/-- An integer starts with its sign or with a digit. -/
theorem exists_integerText_eq (i : Int) :
    ∃ c more, integerText i = c :: more ∧ (c = '-' ∨ c.isDigit) := by
  unfold integerText
  split
  · exact ⟨_, _, rfl, .inl rfl⟩
  · match hds : Nat.toDigits 10 i.natAbs with
    | [] => exact absurd hds Nat.toDigits_ne_nil
    | c :: ds =>
      refine ⟨c, ds, rfl, .inr ?_⟩
      exact Nat.isDigit_of_mem_toDigits (by decide) (by decide) (hds ▸ List.mem_cons_self)

theorem readNumber_of_isDigit {c : Char} (h : c.isDigit) (rest : List Char) :
    readNumber (c :: rest) = readUnsigned false (c :: rest) := by
  unfold readNumber
  split
  · next heq =>
    obtain ⟨rfl, -⟩ := List.cons.inj heq
    cases h
  · rfl

/-- An integer that fits into 64 bits, with or without a sign, is read as it was. -/
theorem readNumber_integerText {i : Int} (hlow : -(UInt64.size / 2 : Nat) ≤ i)
    (hhigh : i < UInt64.size) {rest : List Char} (hrest : Closed rest) :
    readNumber (integerText i ++ rest) = .ok (.integer i, rest) := by
  have hsize : i.natAbs < UInt64.size := by
    have : UInt64.size / 2 < UInt64.size := by decide
    omega
  unfold integerText
  split
  · next hneg => exact readUnsigned_toDigits hsize (integer?_natAbs_of_neg hneg hlow) hrest
  · next hneg =>
    have hread := readUnsigned_toDigits hsize (integer?_natAbs_of_not_neg hneg) hrest
    -- the first digit is not a sign
    match hds : Nat.toDigits 10 i.natAbs with
    | [] => exact absurd hds Nat.toDigits_ne_nil
    | c :: ds =>
      have hc : c.isDigit :=
        Nat.isDigit_of_mem_toDigits (by decide) (by decide) (hds ▸ List.mem_cons_self)
      rw [hds] at hread
      exact (readNumber_of_isDigit hc _).trans hread

end ScanRules.Json
