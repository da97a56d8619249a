import ScanRules.Json.Fault

/-!
# Layout of JSON texts

Readers take something from the start of a text and give the rest.

- `Json.dropSpace`: passes over white space.
- `Json.dropWord`: takes a fixed word.
- `Json.nextElement?`, `Json.dropListEnd`: the commas and the end of a list.
- `Json.nextKey?`, `Json.dropColon`, `Json.dropObjectEnd`: the commas, colons and the end of an
  object.

The lemmas on lengths say that no reader goes back.
-/

namespace ScanRules.Json

open Fault

/-- Is the character white space? -/
def isSpace (c : Char) : Bool :=
  c == ' ' || c == '\n' || c == '\t' || c == '\r'

/-- Passes over white space. -/
def dropSpace (text : List Char) : List Char := text.dropWhile isSpace

theorem length_dropSpace_le (text : List Char) : (dropSpace text).length ≤ text.length :=
  (List.dropWhile_suffix isSpace).length_le

theorem length_le_of_dropSpace_eq {text rest : List Char} {c : Char}
    (h : dropSpace text = c :: rest) : rest.length < text.length := by
  have := length_dropSpace_le text
  rw [h] at this
  exact this

/-- Takes a word. -/
def dropWord : (word : List Char) → List Char → Except Fault (List Char)
  | [], text => .ok text
  | _ :: _, [] => .error (here .endInValue [])
  | w :: word, c :: rest =>
    if c = w then dropWord word rest else .error (onNext .wantWord (c :: rest))

theorem length_dropWord_le {word text rest : List Char} (h : dropWord word text = .ok rest) :
    rest.length ≤ text.length := by
  fun_induction dropWord word text with
  | case1 => cases h; exact Nat.le_refl _
  | case2 | case4 => cases h
  | case3 w word rest ih => exact Nat.le_succ_of_le (ih h)

/-- The text from the next element of a list on, or nothing if the list ends here. `first` says that
there has been no element yet. -/
def nextElement? (first : Bool) (text : List Char) : Except Fault (Option (List Char)) :=
  match dropSpace text with
  | [] => .error (onNext .endInList [])
  | ']' :: _ => .ok none
  | c :: rest =>
    if first then .ok (some (c :: rest))
    else if c = ',' then
      match dropSpace rest with
      | [] => .error (onNext .endInValue [])
      | ']' :: more => .error (onNext .trailingComma (']' :: more))
      | c :: more => .ok (some (c :: more))
    else .error (onNext .wantListEnd (c :: rest))

theorem length_nextElement?_le {first : Bool} {text rest : List Char}
    (h : nextElement? first text = .ok (some rest)) : rest.length ≤ text.length := by
  unfold nextElement? at h
  split at h
  · cases h
  · cases h
  · next c more _ hs =>
    have hlt := length_le_of_dropSpace_eq hs
    split at h
    · cases h
      simp only [List.length_cons]
      omega
    · split at h
      · split at h
        · cases h
        · cases h
        · next hs' =>
          have := length_le_of_dropSpace_eq hs'
          cases h
          simp only [List.length_cons]
          omega
      · cases h

/-- Takes the end of a list. -/
def dropListEnd (text : List Char) : Except Fault (List Char) :=
  match dropSpace text with
  | [] => .error (onNext .endInList [])
  | ']' :: rest => .ok rest
  | ',' :: rest =>
    match dropSpace rest with
    | ']' :: more => .error (onNext .trailingComma (']' :: more))
    | more => .error (onNext .trailingText more)
  | rest => .error (onNext .trailingText rest)

theorem length_dropListEnd_lt {text rest : List Char} (h : dropListEnd text = .ok rest) :
    rest.length < text.length := by
  unfold dropListEnd at h
  split at h
  · cases h
  · next hs => cases h; exact length_le_of_dropSpace_eq hs
  · split at h <;> cases h
  · cases h

/-- The text behind the quote in front of the next key of an object, or nothing if the object ends
here. `first` says that there has been no key yet. -/
def nextKey? (first : Bool) (text : List Char) : Except Fault (Option (List Char)) :=
  match dropSpace text with
  | [] => .error (onNext .endInObject [])
  | '}' :: _ => .ok none
  | c :: rest =>
    if first then
      if c = '"' then .ok (some rest) else .error (onNext .wantKey (c :: rest))
    else if c = ',' then
      match dropSpace rest with
      | [] => .error (onNext .endInValue [])
      | '"' :: more => .ok (some more)
      | '}' :: more => .error (onNext .trailingComma ('}' :: more))
      | more => .error (onNext .wantKey more)
    else .error (onNext .wantObjectEnd (c :: rest))

theorem length_nextKey?_lt {first : Bool} {text rest : List Char}
    (h : nextKey? first text = .ok (some rest)) : rest.length < text.length := by
  unfold nextKey? at h
  split at h
  · cases h
  · cases h
  · next c more _ hs =>
    have hlt := length_le_of_dropSpace_eq hs
    split at h
    · split at h <;> cases h
      exact hlt
    · split at h
      · split at h
        · cases h
        · next hs' =>
          have := length_le_of_dropSpace_eq hs'
          cases h
          omega
        · cases h
        · cases h
      · cases h

/-- Takes the colon behind a key. -/
def dropColon (text : List Char) : Except Fault (List Char) :=
  match dropSpace text with
  | [] => .error (onNext .endInObject [])
  | c :: rest => if c = ':' then .ok rest else .error (onNext .wantColon (c :: rest))

theorem length_dropColon_lt {text rest : List Char} (h : dropColon text = .ok rest) :
    rest.length < text.length := by
  unfold dropColon at h
  split at h
  · cases h
  · next hs =>
    split at h <;> cases h
    exact length_le_of_dropSpace_eq hs

/-- Takes the end of an object. -/
def dropObjectEnd (text : List Char) : Except Fault (List Char) :=
  match dropSpace text with
  | [] => .error (onNext .endInObject [])
  | '}' :: rest => .ok rest
  | ',' :: rest => .error (onNext .trailingComma (',' :: rest))
  | rest => .error (onNext .trailingText rest)

theorem length_dropObjectEnd_lt {text rest : List Char} (h : dropObjectEnd text = .ok rest) :
    rest.length < text.length := by
  unfold dropObjectEnd at h
  split at h
  · cases h
  · next hs => cases h; exact length_le_of_dropSpace_eq hs
  · cases h
  · cases h

/-- A fault that lies in the contents of a list or an object rather than in its text. It is reported
behind the closing bracket if that comes next. -/
def Fault.leaving (close : Char) (kind : FaultKind) (text : List Char) : Fault :=
  match dropSpace text with
  | [] => here kind []
  | c :: rest => if c = close then here kind rest else here kind (c :: rest)

end ScanRules.Json
