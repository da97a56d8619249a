import ScanRules.Json.Layout

/-!
# Numbers in JSON

- `Json.readNumber`: reads a number. Without a point and an exponent it is an integer, if it fits
  into 64 bits; otherwise it is a fraction.
- `Json.skipNumber`: passes over a number, whatever its size.

Fractions are approximated in two steps: as many digits as fit into 64 bits make an integer, which
is then scaled by a power of ten. Digits beyond that only count by their number.
-/

namespace ScanRules.Json

open Fault

/-- The digits of a number as far as they have been read: the integer that they make and the power
of ten that it is scaled by. `full` says that no further digit is taken into the integer. -/
structure Significand where
  value : Nat
  exponent : Int
  full : Bool

namespace Significand

/-- The integer with one more digit, if it fits into 64 bits. -/
def extend? (s : Significand) (digit : Char) : Option Nat :=
  let n := 10 * s.value + (digit.toNat - 48)
  if !s.full && n < UInt64.size then some n else none

/-- Takes a digit in front of the point. -/
def addWhole (s : Significand) (digit : Char) : Significand :=
  match s.extend? digit with
  | some n => { s with value := n }
  | none => { s with exponent := s.exponent + 1, full := true }

/-- Takes a digit behind the point. -/
def addFraction (s : Significand) (digit : Char) : Significand :=
  match s.extend? digit with
  | some n => { s with value := n, exponent := s.exponent - 1 }
  | none => { s with full := true }

/-- The digits in front of the point. -/
def ofWhole (digits : List Char) : Significand :=
  digits.foldl addWhole ⟨0, 0, false⟩

/-- The number as an integer, as far as it is one and fits into 64 bits. -/
def integer? (s : Significand) (negative : Bool) : Option Int :=
  if s.full then none
  else if !negative then some s.value
  else if 0 < s.value ∧ s.value ≤ UInt64.size / 2 then some (-s.value)
  else none

/-- The number as a fraction, scaled by a further power of ten. -/
def fraction? (s : Significand) (power : Int) : Option Binary64 := do
  (← Binary64.round? s.value 1).scale? (s.exponent + power)

end Significand

/-- The digits at the start of a text and what follows them. -/
def spanDigits (text : List Char) : List Char × List Char :=
  (text.takeWhile Char.isDigit, text.dropWhile Char.isDigit)

theorem length_spanDigits_le (text : List Char) : (spanDigits text).2.length ≤ text.length :=
  (List.dropWhile_suffix Char.isDigit).length_le

/-- The number at the start of a text, up to the digit with which it exceeds 31 bits. -/
def readPower (n : Nat) : List Char → Nat × List Char
  | [] => (n, [])
  | c :: rest =>
    if c.isDigit then
      let m := 10 * n + (c.toNat - 48)
      if m < UInt32.size / 2 then readPower m rest else (m, rest)
    else (n, c :: rest)

theorem length_readPower_le (n : Nat) (text : List Char) :
    (readPower n text).2.length ≤ text.length := by
  fun_induction readPower n text with
  | case1 | case4 => exact Nat.le_refl _
  | case2 n c rest _ _ _ ih => exact Nat.le_succ_of_le ih
  | case3 => exact Nat.le_succ _

/-- The text behind the sign of an exponent, and whether the exponent is negative. -/
def exponentSign (text : List Char) : Bool × List Char :=
  match text with
  | '+' :: rest => (false, rest)
  | '-' :: rest => (true, rest)
  | rest => (false, rest)

theorem length_exponentSign_le (text : List Char) :
    (exponentSign text).2.length ≤ text.length := by
  unfold exponentSign
  split
  · exact Nat.le_succ _
  · exact Nat.le_succ _
  · exact Nat.le_refl _

/-- A fraction in front of a text. -/
def fractionAt (negative : Bool) (x? : Option Binary64) (rest : List Char) :
    Except Fault (Scalar × List Char) :=
  match x? with
  | some x => .ok (.fraction negative x, rest)
  | none => .error (here .hugeNumber rest)

theorem eq_of_fractionAt {negative : Bool} {x? : Option Binary64} {rest rest' : List Char}
    {s : Scalar} (h : fractionAt negative x? rest = .ok (s, rest')) : rest' = rest := by
  unfold fractionAt at h
  split at h <;> cases h
  rfl

/-- Reads the digits of an exponent; `down` says that it is negative. -/
def readExponentDigits (negative down : Bool) (s : Significand) (text : List Char) :
    Except Fault (Scalar × List Char) :=
  match text with
  | [] => .error (here .endInValue [])
  | c :: rest =>
    if c.isDigit then
      let (n, rest) := readPower 0 (c :: rest)
      if n < UInt32.size / 2 then fractionAt negative (s.fraction? (if down then -n else n)) rest
      else if s.value = 0 ∨ down then .ok (.fraction negative .zero, (spanDigits rest).2)
      else .error (here .hugeNumber rest)
    else .error (onNext .badNumber (c :: rest))

theorem length_readExponentDigits_le {negative down : Bool} {s : Significand}
    {text rest : List Char} {v : Scalar}
    (h : readExponentDigits negative down s text = .ok (v, rest)) :
    rest.length ≤ text.length := by
  unfold readExponentDigits at h
  split at h
  · cases h
  · next c more =>
    have hpower := length_readPower_le 0 (c :: more)
    split at h
    · generalize readPower 0 (c :: more) = p at h hpower
      simp only at h
      split at h
      · rw [eq_of_fractionAt h]
        exact hpower
      · split at h
        · obtain ⟨-, rfl⟩ := Prod.mk.inj (Except.ok.inj h)
          exact Nat.le_trans (length_spanDigits_le _) hpower
        · cases h
    · cases h

/-- Reads an exponent behind its letter. -/
def readExponent (negative : Bool) (s : Significand) (text : List Char) :
    Except Fault (Scalar × List Char) :=
  let (down, digits) := exponentSign text
  readExponentDigits negative down s digits

theorem length_readExponent_le {negative : Bool} {s : Significand} {text rest : List Char}
    {v : Scalar} (h : readExponent negative s text = .ok (v, rest)) :
    rest.length ≤ text.length :=
  Nat.le_trans (length_readExponentDigits_le h) (length_exponentSign_le text)

/-- Reads the exponent of a number, if it has one. -/
def readScale (negative : Bool) (s : Significand) (text : List Char) :
    Except Fault (Scalar × List Char) :=
  match text with
  | 'e' :: rest | 'E' :: rest => readExponent negative s rest
  | rest => fractionAt negative (s.fraction? 0) rest

theorem length_readScale_le {negative : Bool} {s : Significand} {text rest : List Char}
    {v : Scalar} (h : readScale negative s text = .ok (v, rest)) :
    rest.length ≤ text.length := by
  unfold readScale at h
  split at h
  · exact Nat.le_succ_of_le (length_readExponent_le h)
  · exact Nat.le_succ_of_le (length_readExponent_le h)
  · exact Nat.le_of_eq (congrArg List.length (eq_of_fractionAt h))

/-- Reads what follows the digits in front of the point. -/
def readTail (negative : Bool) (s : Significand) (text : List Char) :
    Except Fault (Scalar × List Char) :=
  match text with
  | '.' :: rest =>
    match spanDigits rest with
    | ([], []) => .error (onNext .endInValue [])
    | ([], rest) => .error (onNext .badNumber rest)
    | (digits, rest) => readScale negative (digits.foldl .addFraction { s with full := false }) rest
  | 'e' :: rest | 'E' :: rest => readExponent negative s rest
  | rest =>
    match s.integer? negative with
    | some n => .ok (.integer n, rest)
    | none => fractionAt negative (s.fraction? 0) rest

theorem length_readTail_le {negative : Bool} {s : Significand} {text rest : List Char}
    {v : Scalar} (h : readTail negative s text = .ok (v, rest)) :
    rest.length ≤ text.length := by
  unfold readTail at h
  split at h
  · next more =>
    have hspan := length_spanDigits_le more
    split at h
    · cases h
    · cases h
    · next hs =>
      rw [hs] at hspan
      exact Nat.le_succ_of_le (Nat.le_trans (length_readScale_le h) hspan)
  · exact Nat.le_succ_of_le (length_readExponent_le h)
  · exact Nat.le_succ_of_le (length_readExponent_le h)
  · split at h
    · cases h
      exact Nat.le_refl _
    · exact Nat.le_of_eq (congrArg List.length (eq_of_fractionAt h))

/-- Reads a number behind its sign. -/
def readUnsigned (negative : Bool) (text : List Char) : Except Fault (Scalar × List Char) :=
  match text with
  | [] => .error (here .endInValue [])
  | c :: rest =>
    if !c.isDigit then .error (onNext .badNumber (c :: rest))
    else if c = '0' ∧ rest.head?.any Char.isDigit then .error (onNext .badNumber rest)
    else
      let (digits, tail) := spanDigits rest
      readTail negative (.ofWhole (c :: digits)) tail

/-- Reads a number. -/
def readNumber (text : List Char) : Except Fault (Scalar × List Char) :=
  match text with
  | '-' :: rest => readUnsigned true rest
  | rest => readUnsigned false rest

theorem length_readUnsigned_lt {negative : Bool} {text rest : List Char} {v : Scalar}
    (h : readUnsigned negative text = .ok (v, rest)) : rest.length < text.length := by
  unfold readUnsigned at h
  split at h
  · cases h
  · next c more =>
    split at h
    · cases h
    · split at h
      · cases h
      · exact Nat.lt_succ_of_le
          (Nat.le_trans (length_readTail_le h) (length_spanDigits_le more))

theorem length_readNumber_lt {text rest : List Char} {v : Scalar}
    (h : readNumber text = .ok (v, rest)) : rest.length < text.length := by
  unfold readNumber at h
  split at h
  · exact Nat.lt_succ_of_lt (length_readUnsigned_lt h)
  · exact length_readUnsigned_lt h

/-- Passes over the digits of an exponent. -/
def skipExponent (text : List Char) : Except Fault (List Char) :=
  let digits := (exponentSign text).2
  if digits.head?.any Char.isDigit then .ok (spanDigits digits).2
  else .error (onNext .badNumber digits)

theorem length_skipExponent_le {text rest : List Char} (h : skipExponent text = .ok rest) :
    rest.length ≤ text.length := by
  unfold skipExponent at h
  simp only at h
  split at h
  · cases h
    exact Nat.le_trans (length_spanDigits_le _) (length_exponentSign_le _)
  · cases h

/-- Passes over the exponent of a number, if it has one. -/
def skipScale (text : List Char) : Except Fault (List Char) :=
  match text with
  | 'e' :: rest | 'E' :: rest => skipExponent rest
  | rest => .ok rest

theorem length_skipScale_le {text rest : List Char} (h : skipScale text = .ok rest) :
    rest.length ≤ text.length := by
  unfold skipScale at h
  split at h
  · exact Nat.le_succ_of_le (length_skipExponent_le h)
  · exact Nat.le_succ_of_le (length_skipExponent_le h)
  · cases h
    exact Nat.le_refl _

/-- Passes over what follows the digits in front of the point. -/
def skipTail (text : List Char) : Except Fault (List Char) :=
  match text with
  | '.' :: rest =>
    match spanDigits rest with
    | ([], rest) => .error (onNext .badNumber rest)
    | (_, rest) => skipScale rest
  | rest => skipScale rest

theorem length_skipTail_le {text rest : List Char} (h : skipTail text = .ok rest) :
    rest.length ≤ text.length := by
  unfold skipTail at h
  split at h
  · next more =>
    have hspan := length_spanDigits_le more
    split at h
    · cases h
    · next hs =>
      rw [hs] at hspan
      exact Nat.le_succ_of_le (Nat.le_trans (length_skipScale_le h) hspan)
  · exact length_skipScale_le h

/-- Passes over a number behind its sign. -/
def skipUnsigned (text : List Char) : Except Fault (List Char) :=
  match text with
  | [] => .error (onNext .badNumber [])
  | c :: rest =>
    if !c.isDigit then .error (onNext .badNumber (c :: rest))
    else if c = '0' ∧ rest.head?.any Char.isDigit then .error (onNext .badNumber rest)
    else skipTail (spanDigits rest).2

/-- Passes over a number. -/
def skipNumber (text : List Char) : Except Fault (List Char) :=
  match text with
  | '-' :: rest => skipUnsigned rest
  | rest => skipUnsigned rest

theorem length_skipUnsigned_lt {text rest : List Char} (h : skipUnsigned text = .ok rest) :
    rest.length < text.length := by
  unfold skipUnsigned at h
  split at h
  · cases h
  · next c more =>
    split at h
    · cases h
    · split at h
      · cases h
      · exact Nat.lt_succ_of_le
          (Nat.le_trans (length_skipTail_le h) (length_spanDigits_le more))

theorem length_skipNumber_lt {text rest : List Char} (h : skipNumber text = .ok rest) :
    rest.length < text.length := by
  unfold skipNumber at h
  split at h
  · exact Nat.lt_succ_of_lt (length_skipUnsigned_lt h)
  · exact length_skipUnsigned_lt h

end ScanRules.Json
