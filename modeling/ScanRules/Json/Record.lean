import ScanRules.Json.Reader

/-!
# Records

A record is written as an object with a member for each field, or as a list of the values of its
fields in their order. Members of other names are passed over.

- `Json.Field`, `Json.Shape`: what the fields are, and how a record is made of them. While a
  record is read, a draft holds the fields that have been given.
- `Json.Reader.record`: reads a record.

No field may be given twice. At the end of an object, fields may be missing as far as the record
can be made without them; at the end of a list, optional ones may.
-/

namespace ScanRules.Json

open Fault

/-- A field of a record with drafts `D`. -/
structure Field (D : Type) where
  name : String
  optional : Bool
  given : D → Bool
  value : Reader (D → D)

/-- The field with a place in the draft. -/
def Field.of {D α : Type} (name : String) (optional : Bool) (get : D → Option α)
    (set : α → D → D) (value : Reader α) : Field D :=
  ⟨name, optional, fun d => (get d).isSome, value.map set⟩

/-- How records are made. -/
structure Shape (D α : Type) where
  name : String
  start : D
  fields : List (Field D)
  finish : D → Except FaultKind α

namespace Shape

variable {D α : Type}

/-- The record in words. -/
def expected (s : Shape D α) : String := s!"struct {s.name}"

/-- The record and the number of its fields, in words. -/
def expectedLength (s : Shape D α) : String :=
  s!"struct {s.name} with {s.fields.length} elements"

end Shape

variable {D α : Type}

/-- Reads a member of an object behind the opening quote of its key. -/
def readMember (fields : List (Field D)) (d : D) (text : List Char) :
    Except Fault (D × List Char) :=
  match readText text with
  | .error f => .error f
  | .ok (key, rest) =>
    match fields.find? (·.name.toList = key) with
    | none =>
      match dropColon rest with
      | .error f => .error f
      | .ok rest =>
        match skip rest with
        | .error f => .error f
        | .ok rest => .ok (d, rest)
    | some field =>
      if field.given d then .error (Fault.leaving '}' (.repeatedField field.name) rest)
      else
        match dropColon rest with
        | .error f => .error f
        | .ok rest =>
          match field.value.read rest with
          | .error f => .error f
          | .ok (set, rest) => .ok (set d, rest)

theorem length_readMember_lt {fields : List (Field D)} {d e : D} {text rest : List Char}
    (h : readMember fields d text = .ok (e, rest)) : rest.length < text.length := by
  unfold readMember at h
  split at h
  · cases h
  · next ht =>
    have := length_readText_lt ht
    split at h
    · split at h
      · cases h
      · next hc =>
        have := length_dropColon_lt hc
        split at h
        · cases h
        · next hs =>
          cases h
          have := length_skip_lt hs
          omega
    · split at h
      · cases h
      · split at h
        · cases h
        · next hc =>
          have := length_dropColon_lt hc
          split at h
          · cases h
          · next field _ _ _ _ _ hv =>
            cases h
            have := Reader.shrinks _ hv
            omega

/-- Reads members up to the end of an object. -/
def readMembers (fields : List (Field D)) (first : Bool) (d : D) (text : List Char) :
    Except Fault (D × List Char) :=
  match _ : nextKey? first text with
  | .error f => .error f
  | .ok none => .ok (d, text)
  | .ok (some rest) =>
    match _ : readMember fields d rest with
    | .error f => .error f
    | .ok (d, rest) => readMembers fields false d rest
termination_by text.length
decreasing_by
  rename_i hk hm
  exact Nat.lt_trans (length_readMember_lt hm) (length_nextKey?_lt hk)

theorem length_readMembers_le {fields : List (Field D)} {first : Bool} {d e : D}
    {text rest : List Char} (h : readMembers fields first d text = .ok (e, rest)) :
    rest.length ≤ text.length := by
  fun_induction readMembers fields first d text with
  | case1 | case3 => cases h
  | case2 => cases h; exact Nat.le_refl _
  | case4 first d text more hk d' more' hm ih =>
    have := length_nextKey?_lt hk
    have := length_readMember_lt hm
    have := ih h
    omega

/-- Reads the values of fields, one after another. `index` is the number of fields before. -/
def readValues (expected : String) (index : Nat) (first : Bool) (fields : List (Field D)) (d : D)
    (text : List Char) : Except Fault (D × List Char) :=
  match fields with
  | [] => .ok (d, text)
  | field :: fields =>
    match nextElement? first text with
    | .error f => .error f
    | .ok none =>
      if field.optional then readValues expected (index + 1) first fields d text
      else .error (Fault.leaving ']' (.wrongLength index expected) text)
    | .ok (some rest) =>
      match field.value.read rest with
      | .error f => .error f
      | .ok (set, rest) => readValues expected (index + 1) false fields (set d) rest

theorem length_readValues_le {expected : String} {index : Nat} {first : Bool}
    {fields : List (Field D)} {d e : D} {text rest : List Char}
    (h : readValues expected index first fields d text = .ok (e, rest)) :
    rest.length ≤ text.length := by
  fun_induction readValues expected index first fields d text with
  | case1 => cases h; exact Nat.le_refl _
  | case2 | case4 | case5 => cases h
  | case3 index first d text field fields _ _ ih => exact ih h
  | case6 index first d text field fields more hn set more' hv ih =>
    have := length_nextElement?_le hn
    have := Reader.shrinks _ hv
    have := ih h
    omega

/-- Ends the reading of a record behind its fields. -/
def finishRecord (s : Shape D α) (close : Char) (dropEnd : List Char → Except Fault (List Char))
    (d : D) (text : List Char) : Except Fault (α × List Char) :=
  match s.finish d with
  | .error kind => .error (Fault.leaving close kind text)
  | .ok a =>
    match dropEnd text with
    | .ok rest => .ok (a, rest)
    | .error f => .error f

theorem dropEnd_of_finishRecord {s : Shape D α} {close : Char}
    {dropEnd : List Char → Except Fault (List Char)} {d : D} {text rest : List Char} {a : α}
    (h : finishRecord s close dropEnd d text = .ok (a, rest)) : dropEnd text = .ok rest := by
  unfold finishRecord at h
  split at h
  · cases h
  · split at h
    · next hr =>
      obtain ⟨-, rfl⟩ := Prod.mk.inj (Except.ok.inj h)
      exact hr
    · cases h

/-- Reads a record. -/
def readRecord (s : Shape D α) (text : List Char) : Except Fault (α × List Char) :=
  match dropSpace text with
  | '{' :: rest =>
    match readMembers s.fields true s.start rest with
    | .error f => .error f
    | .ok (d, rest) => finishRecord s '}' dropObjectEnd d rest
  | '[' :: rest =>
    match readValues s.expectedLength 0 true s.fields s.start rest with
    | .error f => .error f
    | .ok (d, rest) => finishRecord s ']' dropListEnd d rest
  | rest => .error (refuse s.expected rest)

/-- Records of a shape. -/
def Reader.record (s : Shape D α) : Reader α where
  read := readRecord s
  shrinks {text rest a} h := by
    unfold readRecord at h
    split at h
    · next hb =>
      split at h
      · cases h
      · next hm =>
        have := length_le_of_dropSpace_eq hb
        have := length_readMembers_le hm
        have := length_dropObjectEnd_lt (dropEnd_of_finishRecord h)
        omega
    · next hb =>
      split at h
      · cases h
      · next hm =>
        have := length_le_of_dropSpace_eq hb
        have := length_readValues_le hm
        have := length_dropListEnd_lt (dropEnd_of_finishRecord h)
        omega
    · cases h

end ScanRules.Json
