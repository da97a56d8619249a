import ScanRules.Json.Layout
import ScanRules.Text.Hex

/-!
# Texts in JSON

- `Json.escapeChar`, `Json.quoteText`: how a text is written.
- `Json.readText`: reads a text behind its opening quote.
- `Json.skipText`: passes over a text behind its opening quote. It does not look at the numbers in
  escapes, so it accepts halves of surrogate pairs on their own.
-/

namespace ScanRules.Json

open Fault

/-- A character as it is written between quotes. -/
def escapeChar (c : Char) : List Char :=
  match c with
  | '"' => ['\\', '"']
  | '\\' => ['\\', '\\']
  | '\x08' => ['\\', 'b']
  | '\x0c' => ['\\', 'f']
  | '\n' => ['\\', 'n']
  | '\r' => ['\\', 'r']
  | '\t' => ['\\', 't']
  | c =>
    if c.toNat < 0x10 then ['\\', 'u', '0', '0', '0'] ++ hexDigits c.toNat
    else if c.toNat < 0x20 then ['\\', 'u', '0', '0'] ++ hexDigits c.toNat
    else [c]

/-- A text as it is written, with its quotes. -/
def quoteText (text : List Char) : List Char :=
  '"' :: text.flatMap escapeChar ++ ['"']

/-- Reads four hexadecimal digits. Without four bytes, the text is cut off; otherwise four bytes are
looked at, be they digits or not. -/
def readUnit (text : List Char) : Except Fault (Nat × List Char) :=
  match text with
  | a :: b :: c :: d :: rest =>
    if [a, b, c, d].all isHexDigit then .ok (hexValue [a, b, c, d], rest)
    else .error ⟨.badEscape, byteSize text - 4⟩
  | _ =>
    if byteSize text < 4 then .error (here .endInText [])
    else .error ⟨.badEscape, byteSize text - 4⟩

theorem length_readUnit_lt {text rest : List Char} {n : Nat} (h : readUnit text = .ok (n, rest)) :
    rest.length < text.length := by
  unfold readUnit at h
  split at h
  · split at h <;> cases h
    simp only [List.length_cons]
    omega
  · split at h <;> cases h

/-- Reads the second half of a surrogate pair and gives the character of the pair. -/
def readLow (high : Nat) (text : List Char) : Except Fault (Char × List Char) :=
  match text with
  | [] | ['\\'] => .error (here .endInText [])
  | '\\' :: 'u' :: rest =>
    match readUnit rest with
    | .error f => .error f
    | .ok (low, rest) =>
      if 0xDC00 ≤ low ∧ low ≤ 0xDFFF then
        .ok (Char.ofNat (0x10000 + (high - 0xD800) * 0x400 + (low - 0xDC00)), rest)
      else .error (here .loneSurrogate rest)
  | '\\' :: rest => .error (onNext .cutSurrogate rest)
  | rest => .error (onNext .cutSurrogate rest)

theorem length_readLow_lt {high : Nat} {text rest : List Char} {c : Char}
    (h : readLow high text = .ok (c, rest)) : rest.length < text.length := by
  unfold readLow at h
  split at h
  · cases h
  · cases h
  · split at h
    · cases h
    · next hu =>
      have := length_readUnit_lt hu
      split at h
      · obtain ⟨-, rfl⟩ := Prod.mk.inj (Except.ok.inj h)
        simp only [List.length_cons]
        omega
      · cases h
  · cases h
  · cases h

/-- The characters that have an escape of one letter, behind a backslash. -/
def letterEscape? (c : Char) : Option Char :=
  match c with
  | '"' => some '"'
  | '\\' => some '\\'
  | '/' => some '/'
  | 'b' => some '\x08'
  | 'f' => some '\x0c'
  | 'n' => some '\n'
  | 'r' => some '\r'
  | 't' => some '\t'
  | _ => none

/-- Reads what follows a backslash and gives the character that it stands for. -/
def readEscape (text : List Char) : Except Fault (Char × List Char) :=
  match text with
  | [] => .error (here .endInText [])
  | c :: rest =>
    match letterEscape? c with
    | some d => .ok (d, rest)
    | none =>
      if c = 'u' then
        match readUnit rest with
        | .error f => .error f
        | .ok (n, rest) =>
          if 0xD800 ≤ n ∧ n ≤ 0xDBFF then readLow n rest
          else if 0xDC00 ≤ n ∧ n ≤ 0xDFFF then .error (here .loneSurrogate rest)
          else .ok (Char.ofNat n, rest)
      else .error (onNext .badEscape (c :: rest))

theorem length_readEscape_lt {text rest : List Char} {c : Char}
    (h : readEscape text = .ok (c, rest)) : rest.length < text.length := by
  unfold readEscape at h
  split at h
  · cases h
  · split at h
    · cases h
      exact Nat.lt_succ_self _
    · split at h
      · split at h
        · cases h
        · next hu =>
          have := length_readUnit_lt hu
          simp only [List.length_cons]
          split at h
          · have := length_readLow_lt h
            omega
          · split at h
            · cases h
            · obtain ⟨-, rfl⟩ := Prod.mk.inj (Except.ok.inj h)
              omega
      · cases h

/-- Reads a text behind its opening quote. -/
def readText (text : List Char) : Except Fault (List Char × List Char) :=
  match text with
  | [] => .error (here .endInText [])
  | '"' :: rest => .ok ([], rest)
  | '\\' :: rest =>
    match _ : readEscape rest with
    | .error f => .error f
    | .ok (c, rest) =>
      match readText rest with
      | .error f => .error f
      | .ok (cs, rest) => .ok (c :: cs, rest)
  | c :: rest =>
    if c.toNat < 0x20 then .error (here .controlCharacter rest)
    else
      match readText rest with
      | .error f => .error f
      | .ok (cs, rest) => .ok (c :: cs, rest)
termination_by text.length
decreasing_by
  · rename_i h
    have := length_readEscape_lt h
    simp only [List.length_cons]
    omega
  · exact Nat.lt_succ_self _

theorem length_readText_lt {text rest cs : List Char} (h : readText text = .ok (cs, rest)) :
    rest.length < text.length := by
  fun_induction readText text generalizing cs with
  | case1 | case3 | case4 | case6 | case7 => cases h
  | case2 => cases h; exact Nat.lt_succ_self _
  | case5 rest c rest' he ds rest'' hr ih =>
    cases h
    have := length_readEscape_lt he
    have := ih hr
    simp only [List.length_cons]
    omega
  | case8 c rest _ _ _ ds rest' hr ih =>
    cases h
    have := ih hr
    simp only [List.length_cons]
    omega

/-- Passes over what follows a backslash. -/
def skipEscape (text : List Char) : Except Fault (List Char) :=
  match text with
  | [] => .error (here .endInText [])
  | c :: rest =>
    if (letterEscape? c).isSome then .ok rest
    else if c = 'u' then (readUnit rest).map (·.2)
    else .error (onNext .badEscape (c :: rest))

theorem length_skipEscape_lt {text rest : List Char} (h : skipEscape text = .ok rest) :
    rest.length < text.length := by
  unfold skipEscape at h
  split at h
  · cases h
  · split at h
    · cases h
      exact Nat.lt_succ_self _
    · split at h
      · next more _ _ =>
        cases hu : readUnit more with
        | error f => rw [hu] at h; cases h
        | ok p =>
          rw [hu] at h
          cases h
          exact Nat.lt_succ_of_lt (length_readUnit_lt hu)
      · cases h

/-- Passes over a text behind its opening quote. -/
def skipText (text : List Char) : Except Fault (List Char) :=
  match text with
  | [] => .error (here .endInText [])
  | '"' :: rest => .ok rest
  | '\\' :: rest =>
    match _ : skipEscape rest with
    | .error f => .error f
    | .ok rest => skipText rest
  | c :: rest =>
    if c.toNat < 0x20 then .error (here .controlCharacter (c :: rest)) else skipText rest
termination_by text.length
decreasing_by
  · rename_i h
    have := length_skipEscape_lt h
    simp only [List.length_cons]
    omega
  · exact Nat.lt_succ_self _

theorem length_skipText_lt {text rest : List Char} (h : skipText text = .ok rest) :
    rest.length < text.length := by
  fun_induction skipText text with
  | case1 | case3 | case5 => cases h
  | case2 => cases h; exact Nat.lt_succ_self _
  | case4 rest rest' he ih =>
    have := length_skipEscape_lt he
    have := ih h
    simp only [List.length_cons]
    omega
  | case6 c rest _ _ _ ih =>
    have := ih h
    simp only [List.length_cons]
    omega

end ScanRules.Json
