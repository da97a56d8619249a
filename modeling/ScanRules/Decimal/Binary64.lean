/-!
# Binary floating point numbers

Non-negative numbers with 53 binary digits and a limited exponent, in exact arithmetic.

- `Binary64`: the numbers.
- `Binary64.round?`: the number next to a fraction. Of two that are equally near, the one with the
  even mantissa is taken; fractions that are too large have none.
- `Binary64.scale?`: a number times a power of ten, in the steps in which tables of powers up to
  308 allow it, each step being rounded.
-/

namespace ScanRules

/-- The number `mantissa * 2 ^ exponent`. -/
structure Binary64 where
  mantissa : Nat
  exponent : Int
  deriving DecidableEq, Repr

namespace Binary64

/-- The number zero. -/
def zero : Binary64 := ⟨0, -1074⟩

/-- The natural number next to a quotient, the even one if two are equally near. -/
def divEven (a b : Nat) : Nat :=
  let q := a / b
  match compare (2 * (a % b)) b with
  | .lt => q
  | .eq => q + q % 2
  | .gt => q + 1

/-- A fraction divided by a power of two. -/
def shift (num den : Nat) (e : Int) : Nat × Nat :=
  (num * Nat.pow 2 (-e).toNat, den * Nat.pow 2 e.toNat)

/-- The least exponent at which the whole part of a fraction has at most 53 binary digits. -/
def fitting (num den : Nat) : Int :=
  let e := max (-1074) ((Nat.log2 num : Int) - Nat.log2 den - 53)
  let (a, b) := shift num den e
  if a / b < Nat.pow 2 53 then e else e + 1

/-- The number next to a fraction. -/
def round? (num den : Nat) : Option Binary64 :=
  if num = 0 then some zero
  else
    let e := fitting num den
    let (a, b) := shift num den e
    let m := divEven a b
    let x : Binary64 := if m < Nat.pow 2 53 then ⟨m, e⟩ else ⟨Nat.pow 2 52, e + 1⟩
    if x.exponent ≤ 971 then some x else none

/-- The number as a fraction. -/
def fraction (x : Binary64) : Nat × Nat :=
  (x.mantissa * Nat.pow 2 x.exponent.toNat, Nat.pow 2 (-x.exponent).toNat)

/-- The rounded product. -/
def times? (x y : Binary64) : Option Binary64 :=
  round? (x.fraction.1 * y.fraction.1) (x.fraction.2 * y.fraction.2)

/-- The rounded quotient. -/
def over? (x y : Binary64) : Option Binary64 :=
  round? (x.fraction.1 * y.fraction.2) (x.fraction.2 * y.fraction.1)

/-- The number times ten to the power `e`, unless that is too large. -/
def scale? (x : Binary64) (e : Int) : Option Binary64 :=
  if 0 ≤ e then
    if e ≤ 308 then do x.times? (← round? (Nat.pow 10 e.toNat) 1)
    else if x.mantissa = 0 then some x
    else none
  else if -308 ≤ e then do x.over? (← round? (Nat.pow 10 (-e).toNat) 1)
  else if x.mantissa = 0 then some x
  else do scale? (← x.over? (← round? (Nat.pow 10 308) 1)) (e + 308)
termination_by (-e).toNat

end Binary64

end ScanRules
