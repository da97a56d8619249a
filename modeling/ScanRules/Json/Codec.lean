import ScanRules.Json
import ScanRules.Json.Record

/-!
# Codecs

- `Json.Codec`: the types whose values are written as JSON, and how they are read again.
- `Json.encode`, `Json.decode`: values as whole texts.

The instances here are for truth values, numbers, texts, lists and values that may be missing.
-/

namespace ScanRules.Json

open Fault

/-- A type whose values have a form in JSON. -/
class Codec (α : Type) where
  toJson : α → Json
  reader : Reader α

export Codec (toJson)

/-- A value as text. -/
def encode {α : Type} [Codec α] (a : α) : String := String.ofList (toJson a).render

/-- The value that a whole text is the form of. -/
def decode (α : Type) [Codec α] (text : String) : Except Fault α :=
  match (Codec.reader : Reader α).read text.toList with
  | .error f => .error f
  | .ok (a, rest) =>
    match dropSpace rest with
    | [] => .ok a
    | rest => .error (onNext .trailingText rest)

namespace Codec

/-- Accepts texts. -/
def takeText (expected : String) : Scalar → Except FaultKind String
  | .text s => .ok s
  | v => .error (.wrongKind (.scalar v) expected)

/-- Accepts truth values. -/
def takeBoolean (expected : String) : Scalar → Except FaultKind Bool
  | .boolean b => .ok b
  | v => .error (.wrongKind (.scalar v) expected)

/-- Accepts integers in a range. -/
def takeInteger (low high : Int) (expected : String) : Scalar → Except FaultKind Int
  | .integer n =>
    if low ≤ n ∧ n ≤ high then .ok n else .error (.wrongValue (.scalar (.integer n)) expected)
  | v => .error (.wrongKind (.scalar v) expected)

/-- Accepts texts that a function can read. -/
def takeTextBy {α ε : Type} (expected : String) (fault : ε → FaultKind) (f : String → Except ε α)
    (v : Scalar) : Except FaultKind α :=
  match takeText expected v with
  | .error kind => .error kind
  | .ok s =>
    match f s with
    | .ok a => .ok a
    | .error e => .error (fault e)

instance : Codec String where
  toJson := .text
  reader := .scalar "a string" (takeText "a string")

instance : Codec Bool where
  toJson := .boolean
  reader := .scalar "a boolean" (takeBoolean "a boolean")

/-- Natural numbers have 64 bits. -/
instance : Codec Nat where
  toJson n := .integer n
  reader := (Reader.scalar "usize" (takeInteger 0 (UInt64.size - 1) "usize")).map Int.toNat

instance : Codec Int64 where
  toJson n := .integer n.toInt
  reader := (Reader.scalar "i64" (takeInteger Int64.minValue.toInt Int64.maxValue.toInt "i64")).map Int64.ofInt

instance {α : Type} [Codec α] : Codec (List α) where
  toJson as := .list (as.map toJson)
  reader := .list reader

instance {α : Type} [Codec α] : Codec (Option α) where
  toJson
    | some a => toJson a
    | none => .null
  reader := .optional reader

end Codec

end ScanRules.Json
