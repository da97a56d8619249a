import ScanRules.Json.Number
import ScanRules.Json.Text

/-!
# Values without parts, and values that are passed over

- `Json.readScalar`: reads a value that is neither a list nor an object.
- `Json.skipScalar`: passes over such a value.
- `Json.skip`: passes over any value. It keeps the brackets that are open in a list, so values may
  be nested to any depth.
-/

namespace ScanRules.Json

open Fault

/-- A word in front of a text as a value. -/
def readWord (word : List Char) (value : Scalar) (text : List Char) :
    Except Fault (Scalar × List Char) :=
  match dropWord word text with
  | .ok rest => .ok (value, rest)
  | .error f => .error f

theorem length_readWord_le {word text rest : List Char} {v w : Scalar}
    (h : readWord word w text = .ok (v, rest)) : rest.length ≤ text.length := by
  unfold readWord at h
  split at h
  · next hw =>
    cases h
    exact length_dropWord_le hw
  · cases h

/-- Reads a value that is neither a list nor an object. -/
def readScalar (text : List Char) : Except Fault (Scalar × List Char) :=
  match text with
  | [] => .error (onNext .endInValue [])
  | 'n' :: rest => readWord ['u', 'l', 'l'] .null rest
  | 't' :: rest => readWord ['r', 'u', 'e'] (.boolean true) rest
  | 'f' :: rest => readWord ['a', 'l', 's', 'e'] (.boolean false) rest
  | '"' :: rest =>
    match readText rest with
    | .ok (cs, rest) => .ok (.text (String.ofList cs), rest)
    | .error f => .error f
  | c :: rest =>
    if c = '-' ∨ c.isDigit then readNumber (c :: rest)
    else .error (onNext .wantValue (c :: rest))

theorem length_readScalar_lt {text rest : List Char} {v : Scalar}
    (h : readScalar text = .ok (v, rest)) : rest.length < text.length := by
  unfold readScalar at h
  split at h
  · cases h
  · exact Nat.lt_succ_of_le (length_readWord_le h)
  · exact Nat.lt_succ_of_le (length_readWord_le h)
  · exact Nat.lt_succ_of_le (length_readWord_le h)
  · split at h
    · next ht =>
      obtain ⟨-, rfl⟩ := Prod.mk.inj (Except.ok.inj h)
      exact Nat.lt_succ_of_lt (length_readText_lt ht)
    · cases h
  · split at h
    · exact length_readNumber_lt h
    · cases h

/-- Passes over a value that is neither a list nor an object. -/
def skipScalar (text : List Char) : Except Fault (List Char) :=
  match text with
  | [] => .error (onNext .endInValue [])
  | 'n' :: rest => dropWord ['u', 'l', 'l'] rest
  | 't' :: rest => dropWord ['r', 'u', 'e'] rest
  | 'f' :: rest => dropWord ['a', 'l', 's', 'e'] rest
  | '"' :: rest => skipText rest
  | c :: rest =>
    if c = '-' ∨ c.isDigit then skipNumber (c :: rest)
    else .error (onNext .wantValue (c :: rest))

theorem length_skipScalar_lt {text rest : List Char} (h : skipScalar text = .ok rest) :
    rest.length < text.length := by
  unfold skipScalar at h
  split at h
  · cases h
  · exact Nat.lt_succ_of_le (length_dropWord_le h)
  · exact Nat.lt_succ_of_le (length_dropWord_le h)
  · exact Nat.lt_succ_of_le (length_dropWord_le h)
  · exact Nat.lt_succ_of_lt (length_skipText_lt h)
  · split at h
    · exact length_skipNumber_lt h
    · cases h

/-- An open bracket. -/
inductive Bracket where
  | list
  | object
  deriving DecidableEq, Repr

namespace Bracket

/-- The character that closes the bracket. -/
def close : Bracket → Char
  | list => ']'
  | object => '}'

/-- The fault of a text that ends inside of the bracket. -/
def ending : Bracket → FaultKind
  | list => .endInList
  | object => .endInObject

/-- The fault of a text that goes on without a comma. -/
def wanting : Bracket → FaultKind
  | list => .wantListEnd
  | object => .wantObjectEnd

end Bracket

/-- Passes over the key in front of a value, which only objects have. -/
def skipKey (b : Bracket) (text : List Char) : Except Fault (List Char) :=
  match b with
  | .list => .ok text
  | .object =>
    match dropSpace text with
    | [] => .error (onNext .endInObject [])
    | '"' :: rest =>
      match skipText rest with
      | .ok rest => dropColon rest
      | .error f => .error f
    | rest => .error (onNext .wantKey rest)

theorem length_skipKey_le {b : Bracket} {text rest : List Char}
    (h : skipKey b text = .ok rest) : rest.length ≤ text.length := by
  unfold skipKey at h
  split at h
  · cases h
    exact Nat.le_refl _
  · split at h
    · cases h
    · next hs =>
      have := length_le_of_dropSpace_eq hs
      split at h
      · next ht =>
        have := length_skipText_lt ht
        have := length_dropColon_lt h
        omega
      · cases h
    · cases h

/-- Passes over a value without parts, or over the bracket that opens one with parts. -/
def skipOpening (text : List Char) : Except Fault (Option Bracket × List Char) :=
  match dropSpace text with
  | '[' :: rest => .ok (some .list, rest)
  | '{' :: rest => .ok (some .object, rest)
  | rest =>
    match skipScalar rest with
    | .ok rest => .ok (none, rest)
    | .error f => .error f

theorem length_skipOpening_lt {text rest : List Char} {b? : Option Bracket}
    (h : skipOpening text = .ok (b?, rest)) : rest.length < text.length := by
  unfold skipOpening at h
  have hle := length_dropSpace_le text
  split at h
  · next hs =>
    cases h
    exact length_le_of_dropSpace_eq hs
  · next hs =>
    cases h
    exact length_le_of_dropSpace_eq hs
  · split at h
    · next hs =>
      cases h
      exact Nat.lt_of_lt_of_le (length_skipScalar_lt hs) hle
    · cases h

/-- Passes over an item of a bracket: the key, and the value or its opening bracket. `filled` says
that there is an item in front of it, so that a comma has to come first. -/
def skipItem (filled : Bool) (b : Bracket) (c : Char) (rest : List Char) :
    Except Fault (Option Bracket × List Char) :=
  if filled && c ≠ ',' then .error (onNext b.wanting (c :: rest))
  else
    match skipKey b (if filled then rest else c :: rest) with
    | .error f => .error f
    | .ok rest => skipOpening rest

theorem length_skipItem_le {filled : Bool} {b : Bracket} {c : Char} {text rest : List Char}
    {b? : Option Bracket} (h : skipItem filled b c text = .ok (b?, rest)) :
    rest.length ≤ text.length := by
  unfold skipItem at h
  split at h
  · cases h
  · split at h
    · cases h
    · next hk =>
      have := length_skipKey_le hk
      have := length_skipOpening_lt h
      cases filled
      · simp only [Bool.false_eq_true, ite_false, List.length_cons] at *
        omega
      · simp only [ite_true] at *
        omega

/-- Passes over all that is left in the brackets that are open, the innermost first. `filled` says
that an item has just ended. -/
def skipRest (filled : Bool) (enclosing : List Bracket) (text : List Char) :
    Except Fault (List Char) :=
  match enclosing with
  | [] => .ok text
  | b :: outer =>
    match _ : dropSpace text with
    | [] => .error (onNext b.ending [])
    | c :: rest =>
      if c = b.close then skipRest true outer rest
      else
        match _ : skipItem filled b c rest with
        | .error f => .error f
        | .ok (b?, rest) => skipRest b?.isNone (b?.toList ++ b :: outer) rest
termination_by text.length
decreasing_by
  · rename_i h _
    exact length_le_of_dropSpace_eq h
  · rename_i h _ hi
    exact Nat.lt_of_le_of_lt (length_skipItem_le hi) (length_le_of_dropSpace_eq h)

theorem length_skipRest_le {filled : Bool} {enclosing : List Bracket} {text rest : List Char}
    (h : skipRest filled enclosing text = .ok rest) : rest.length ≤ text.length := by
  fun_induction skipRest filled enclosing text with
  | case1 => cases h; exact Nat.le_refl _
  | case2 | case4 => cases h
  | case3 filled text b outer more hs ih =>
    exact Nat.le_trans (ih h) (Nat.le_of_lt (length_le_of_dropSpace_eq hs))
  | case5 filled text b outer c more hs _ b? more' hi ih =>
    have := length_skipItem_le hi
    have := length_le_of_dropSpace_eq hs
    exact Nat.le_trans (ih h) (by omega)

/-- Passes over a value. -/
def skip (text : List Char) : Except Fault (List Char) :=
  match skipOpening text with
  | .error f => .error f
  | .ok (b?, rest) => skipRest b?.isNone b?.toList rest

theorem length_skip_lt {text rest : List Char} (h : skip text = .ok rest) :
    rest.length < text.length := by
  unfold skip at h
  split at h
  · cases h
  · next ho =>
    exact Nat.lt_of_le_of_lt (length_skipRest_le h) (length_skipOpening_lt ho)

end ScanRules.Json
