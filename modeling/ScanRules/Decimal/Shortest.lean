import ScanRules.Decimal.Binary64

/-!
# Shortest decimals

The decimal with the fewest digits among all numbers that round to a given one.

- `Decimal`: digits and an exponent.
- `Binary64.readsBack`: does a decimal round to a number?
- `Binary64.shortest`: the shortest decimal that does. It lies on the coarsest decimal grid on which
  there is one at all; of two, the nearer one is taken, and the even one if both are equally near.
- `Decimal.display`: numbers from 0.00001 up to 10 ^ 16 are written with their digits around the
  point, all others with an exponent.
-/

namespace ScanRules

/-- The number `digits * 10 ^ exponent`. -/
structure Decimal where
  digits : Nat
  exponent : Int
  deriving DecidableEq, Repr

namespace Decimal

/-- The number as a fraction. -/
def fraction (d : Decimal) : Nat × Nat :=
  (d.digits * Nat.pow 10 d.exponent.toNat, Nat.pow 10 (-d.exponent).toNat)

/-- Compares fractions. -/
def compareFractions (x y : Nat × Nat) : Ordering :=
  compare (x.1 * y.2) (y.1 * x.2)

end Decimal

namespace Binary64

open Decimal

/-- Is the next number below only half as far away as the next one above? -/
def narrowBelow (x : Binary64) : Bool :=
  x.mantissa == Nat.pow 2 52 && -1074 < x.exponent

/-- Does a decimal round to this number? It lies between the points halfway to the next numbers;
these points themselves round to even mantissas. -/
def readsBack (x : Binary64) (d : Decimal) : Bool :=
  let low : Binary64 := ⟨4 * x.mantissa - if x.narrowBelow then 1 else 2, x.exponent - 2⟩
  let high : Binary64 := ⟨4 * x.mantissa + 2, x.exponent - 2⟩
  let closed := x.mantissa % 2 == 0
  let above := compareFractions d.fraction low.fraction
  let below := compareFractions d.fraction high.fraction
  (above == .gt || closed && above == .eq) && (below == .lt || closed && below == .eq)

/-- The decimal on the grid of an exponent that rounds to this number and is nearest to it. -/
def onGrid? (x : Binary64) (e : Int) : Option Decimal :=
  let (num, den) := x.fraction
  let num := num * Nat.pow 10 (-e).toNat
  let den := den * Nat.pow 10 e.toNat
  let down : Decimal := ⟨num / den, e⟩
  let up : Decimal := ⟨num / den + 1, e⟩
  match x.readsBack down, x.readsBack up with
  | false, false => none
  | true, false => some down
  | false, true => some up
  | true, true =>
    match compare (2 * (num % den)) den with
    | .lt => some down
    | .gt => some up
    | .eq => some (if down.digits % 2 = 0 then down else up)

/-- The shortest decimal that rounds to this number. -/
def shortest (x : Binary64) : Decimal :=
  if x.mantissa = 0 then ⟨0, 0⟩
  else ((List.range 640).findSome? fun i : Nat => x.onGrid? (309 - i)).getD ⟨0, 0⟩

end Binary64

namespace Decimal

/-- An exponent with its sign and at least two digits. -/
def displayExponent (e : Int) : String :=
  let digits := toString e.natAbs
  (if e < 0 then "-" else "+") ++ (if e.natAbs < 10 then "0" ++ digits else digits)

/-- The decimal as text. -/
def display (d : Decimal) : String :=
  let digits := Nat.toDigits 10 d.digits
  let point := digits.length + d.exponent
  let zeros (n : Int) := List.replicate n.toNat '0'
  if d.digits = 0 then "0.0"
  else if point ≤ -5 ∨ 16 < point then
    let tail := if digits.tail.isEmpty then [] else '.' :: digits.tail
    String.ofList (digits.take 1 ++ tail) ++ "e" ++ displayExponent (point - 1)
  else if point ≤ 0 then String.ofList (['0', '.'] ++ zeros (-point) ++ digits)
  else if point < digits.length then
    String.ofList (digits.take point.toNat ++ '.' :: digits.drop point.toNat)
  else String.ofList (digits ++ zeros (point - digits.length) ++ ['.', '0'])

end Decimal

end ScanRules
