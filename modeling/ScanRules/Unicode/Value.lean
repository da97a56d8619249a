import ScanRules.CharSet

/-!
# Names of properties and their values

Properties of characters and the values of properties are found by name, and names are compared
loosely: case, spaces, underscores, hyphens and an initial `is` do not matter (`looseName`).

- `Value`: a set of characters with its names.
- `Value.find?`: the value that a loose name stands for.
-/

namespace ScanRules.Unicode

/-- A named set of characters. A value that no character has carries no set. -/
structure Value where
  name : String
  aliases : List String
  members? : Option CharSet

/-- Lower-case form of an ASCII letter. -/
def asciiLower (c : Char) : Char :=
  if 'A' ≤ c ∧ c ≤ 'Z' then Char.ofNat (c.toNat + 32) else c

/-- What a name is compared by: its ASCII characters in lower case, less spaces, underscores and
hyphens, less an initial `is`. The name `isc` is kept, since without `is` it would be taken for the
category `c`. -/
def looseName (name : List Char) : List Char :=
  let squeeze (cs : List Char) :=
    (cs.filter fun c => c.toNat < 128 && c ≠ ' ' && c ≠ '_' && c ≠ '-').map asciiLower
  match name with
  | a :: b :: rest =>
    if asciiLower a = 'i' ∧ asciiLower b = 's' then
      if squeeze rest = ['c'] then ['i', 's', 'c'] else squeeze rest
    else squeeze name
  | _ => squeeze name

/-- Does one of the names agree with a loose name? -/
def Value.isCalled (v : Value) (loose : List Char) : Bool :=
  (v.name :: v.aliases).any fun n => looseName n.toList == loose

/-- The first value that a loose name stands for. -/
def Value.find? (values : List Value) (loose : List Char) : Option Value :=
  values.find? (·.isCalled loose)

end ScanRules.Unicode
