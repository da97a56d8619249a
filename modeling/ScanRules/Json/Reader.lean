import ScanRules.Json.Skip

/-!
# Readers of values

- `Json.Reader`: takes a value from the start of a text and gives the rest, which is always shorter.
- `Json.Reader.scalar`: values without parts.
- `Json.Reader.optional`: values that may be null.
- `Json.Reader.list`: lists.
-/

namespace ScanRules.Json

open Fault

/-- A way to read a value from the start of a text. -/
structure Reader (α : Type) where
  read : List Char → Except Fault (α × List Char)
  shrinks : ∀ {text rest : List Char} {a : α},
    read text = .ok (a, rest) → rest.length < text.length

/-- The fault of a text that starts with a value of the wrong kind. -/
def refuse (expected : String) (text : List Char) : Fault :=
  match text with
  | '[' :: _ => here (.wrongKind .list expected) text
  | '{' :: _ => here (.wrongKind .object expected) text
  | _ =>
    match readScalar text with
    | .ok (v, rest) => here (.wrongKind (.scalar v) expected) rest
    | .error f => f

/-- Reads a value without parts that `take` accepts. -/
def readScalarAs {α : Type} (expected : String) (take : Scalar → Except FaultKind α)
    (text : List Char) : Except Fault (α × List Char) :=
  match dropSpace text with
  | '[' :: rest => .error (refuse expected ('[' :: rest))
  | '{' :: rest => .error (refuse expected ('{' :: rest))
  | rest =>
    match readScalar rest with
    | .error f => .error f
    | .ok (v, rest) =>
      match take v with
      | .ok a => .ok (a, rest)
      | .error kind => .error (here kind rest)

/-- Reads a value that may be null. -/
def readOptional {α : Type} (item : Reader α) (text : List Char) :
    Except Fault (Option α × List Char) :=
  match dropSpace text with
  | 'n' :: rest =>
    match dropWord ['u', 'l', 'l'] rest with
    | .ok rest => .ok (none, rest)
    | .error f => .error f
  | _ =>
    match item.read text with
    | .ok (a, rest) => .ok (some a, rest)
    | .error f => .error f

/-- Reads elements up to the end of a list. -/
def readElements {α : Type} (item : Reader α) (first : Bool) (text : List Char) :
    Except Fault (List α × List Char) :=
  match _ : nextElement? first text with
  | .error f => .error f
  | .ok none => .ok ([], text)
  | .ok (some rest) =>
    match _ : item.read rest with
    | .error f => .error f
    | .ok (a, rest) =>
      match readElements item false rest with
      | .error f => .error f
      | .ok (as, rest) => .ok (a :: as, rest)
termination_by text.length
decreasing_by
  rename_i hn hr
  exact Nat.lt_of_lt_of_le (item.shrinks hr) (length_nextElement?_le hn)

theorem length_readElements_le {α : Type} {item : Reader α} {first : Bool}
    {text rest : List Char} {as : List α} (h : readElements item first text = .ok (as, rest)) :
    rest.length ≤ text.length := by
  fun_induction readElements item first text generalizing as with
  | case1 | case3 | case4 => cases h
  | case2 => cases h; exact Nat.le_refl _
  | case5 first text next hn a more hr as' rest' hs ih =>
    cases h
    have := item.shrinks hr
    have := length_nextElement?_le hn
    have := ih hs
    omega

/-- Reads a list. -/
def readList {α : Type} (item : Reader α) (text : List Char) :
    Except Fault (List α × List Char) :=
  match dropSpace text with
  | '[' :: rest =>
    match readElements item true rest with
    | .error f => .error f
    | .ok (as, rest) =>
      match dropListEnd rest with
      | .ok rest => .ok (as, rest)
      | .error f => .error f
  | rest => .error (refuse "a sequence" rest)

namespace Reader

variable {α β : Type}

/-- Reads a value and applies a function to it. -/
def map (f : α → β) (r : Reader α) : Reader β where
  read text :=
    match r.read text with
    | .ok (a, rest) => .ok (f a, rest)
    | .error e => .error e
  shrinks h := by
    split at h
    · next hr =>
      obtain ⟨-, rfl⟩ := Prod.mk.inj (Except.ok.inj h)
      exact r.shrinks hr
    · cases h

/-- Values without parts. `expected` says in words which ones are accepted. -/
def scalar (expected : String) (take : Scalar → Except FaultKind α) : Reader α where
  read := readScalarAs expected take
  shrinks {text rest a} h := by
    unfold readScalarAs at h
    have hle := length_dropSpace_le text
    split at h
    · cases h
    · cases h
    · split at h
      · cases h
      · next hs =>
        split at h
        · obtain ⟨-, rfl⟩ := Prod.mk.inj (Except.ok.inj h)
          exact Nat.lt_of_lt_of_le (length_readScalar_lt hs) hle
        · cases h

/-- Values that may be null. -/
def optional (item : Reader α) : Reader (Option α) where
  read := readOptional item
  shrinks {text rest a} h := by
    unfold readOptional at h
    split at h
    · next hn =>
      split at h
      · next hw =>
        obtain ⟨-, rfl⟩ := Prod.mk.inj (Except.ok.inj h)
        exact Nat.lt_of_le_of_lt (length_dropWord_le hw) (length_le_of_dropSpace_eq hn)
      · cases h
    · split at h
      · next hr =>
        obtain ⟨-, rfl⟩ := Prod.mk.inj (Except.ok.inj h)
        exact item.shrinks hr
      · cases h

/-- Lists. -/
def list (item : Reader α) : Reader (List α) where
  read := readList item
  shrinks {text rest as} h := by
    unfold readList at h
    split at h
    · next hb =>
      split at h
      · cases h
      · next he =>
        split at h
        · next hc =>
          obtain ⟨-, rfl⟩ := Prod.mk.inj (Except.ok.inj h)
          have := length_le_of_dropSpace_eq hb
          have := length_readElements_le he
          have := length_dropListEnd_lt hc
          omega
        · cases h
    · cases h

end Reader

end ScanRules.Json
