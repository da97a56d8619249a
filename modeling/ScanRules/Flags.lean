import ScanRules.Text.Blank
import ScanRules.Text.Hex

/-!
# Pattern flags

Eight bits, five of which have names and change how a pattern is read or matched. The others are
kept, but have no effect.

- `Flags`: the bits. `Flags.caseInsensitive` and so on ask for the named ones.
- `Flags.written`: the names of the bits that are set, joined by bars; bits without a name come
  last, as one hexadecimal number.
- `Flags.ofWritten`: reads names and hexadecimal numbers in any order.
-/

namespace ScanRules

/-- A set of flags. -/
structure Flags where
  bits : UInt8
  deriving DecidableEq, Repr

namespace Flags

/-- No flags. -/
def empty : Flags := ⟨0⟩

/-- The flags of either set. -/
def union (f g : Flags) : Flags := ⟨f.bits ||| g.bits⟩

instance : Union Flags := ⟨union⟩

/-- The named flags and their bits. -/
def named : List (String × UInt8) :=
  [ ("CASE_INSENSITIVE", 1), ("DOT_MATCHES_NEW_LINE", 2), ("MULTI_LINE", 4),
    ("IGNORE_WHITESPACE", 8), ("SWAP_GREED", 16) ]

/-- Is a bit set? -/
def has (f : Flags) (bit : UInt8) : Bool := f.bits &&& bit == bit

/-- Does case not count? -/
def caseInsensitive (f : Flags) : Bool := f.has 1

/-- Does the dot match line feeds? -/
def dotMatchesNewLine (f : Flags) : Bool := f.has 2

/-- Do the line assertions hold inside of the text? -/
def multiLine (f : Flags) : Bool := f.has 4

/-- May layout stand in the pattern? -/
def ignoreWhitespace (f : Flags) : Bool := f.has 8

/-- Are lazy and greedy repetition exchanged? -/
def swapGreed (f : Flags) : Bool := f.has 16

/-- Is no bit set? -/
def isEmpty (f : Flags) : Bool := f.bits == 0

/-- Are all named bits set? -/
def isAll (f : Flags) : Bool := named.all (f.has ·.2)

/-- The bits that have no name. -/
def unnamed (f : Flags) : UInt8 := f.bits &&& 0xE0

/-- The written form, its parts. -/
def parts (f : Flags) : List String :=
  ((named.filter (f.has ·.2)).map (·.1)) ++
    if f.unnamed == 0 then [] else ["0x" ++ String.ofList (hexDigits f.unnamed.toNat)]

/-- The written form. -/
def written (f : Flags) : String := " | ".intercalate f.parts

/-- The form in which flags are shown in reports. -/
def display (f : Flags) : String :=
  let shown := if f.isEmpty then "0x0" else f.written
  s!"PatternFlags({shown})"

/-- Why a text is not the written form of flags. -/
inductive TextFault where
  | missing
  | notHex
  | unknownName
  deriving DecidableEq, Repr

/-- The wording of a fault. -/
def TextFault.message : TextFault → String
  | missing => "encountered empty flag"
  | notHex => "invalid hex flag"
  | unknownName => "unrecognized named flag"

/-- The byte written in hexadecimal digits, a plus sign in front being allowed. -/
def hexByte? (text : List Char) : Option UInt8 :=
  let digits :=
    match text with
    | '+' :: rest => rest
    | _ => text
  match digits with
  | [] => none
  | _ =>
    (digits.foldl (fun n? c => do return 16 * (← n?) + (← hexDigit? c)) (some 0)).bind fun n =>
      if n < 256 then some (UInt8.ofNat n) else none

/-- Reads one name or number. -/
def ofPart (text : List Char) : Except TextFault Flags :=
  match trimBlanks text with
  | [] => .error .missing
  | '0' :: 'x' :: digits => (hexByte? digits).elim (.error .notHex) (.ok ⟨·⟩)
  | name =>
    match named.find? (·.1.toList == name) with
    | some (_, bit) => .ok ⟨bit⟩
    | none => .error .unknownName

/-- Splits a text at its bars. -/
def splitBars : List Char → List (List Char)
  | [] => [[]]
  | c :: rest =>
    if c = '|' then [] :: splitBars rest
    else
      match splitBars rest with
      | [] => [[c]]
      | part :: parts => (c :: part) :: parts

/-- Reads flags; a blank text has none. -/
def ofWritten (text : String) : Except TextFault Flags :=
  if (trimBlanks text.toList).isEmpty then .ok empty
  else (splitBars text.toList).foldlM (fun f part => do return f ∪ (← ofPart part)) empty

end Flags

end ScanRules
