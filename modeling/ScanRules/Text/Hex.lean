/-!
# Hexadecimal numbers

- `hexDigit?`: the value of a digit.
- `hexValue`: the number that digits stand for.
- `hexDigits`: the digits of a number.
-/

namespace ScanRules

/-- The value of a hexadecimal digit, if it is one. -/
def hexDigit? (c : Char) : Option Nat :=
  if '0' ≤ c ∧ c ≤ '9' then some (c.toNat - 48)
  else if 'a' ≤ c ∧ c ≤ 'f' then some (c.toNat - 87)
  else if 'A' ≤ c ∧ c ≤ 'F' then some (c.toNat - 55)
  else none

/-- Is the character a hexadecimal digit? -/
def isHexDigit (c : Char) : Bool := (hexDigit? c).isSome

/-- The number written in hexadecimal digits; other characters are passed over. -/
def hexValue (digits : List Char) : Nat :=
  digits.foldl (fun n c => (hexDigit? c).elim n (16 * n + ·)) 0

/-- A number in lower-case hexadecimal digits. -/
def hexDigits (n : Nat) : List Char := Nat.toDigits 16 n

end ScanRules
