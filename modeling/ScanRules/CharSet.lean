import ScanRules.Text.Blank
import ScanRules.Text.Hex

/-!
# Sets of characters

The sets that patterns are made of: ascending lists of ranges of code points.

- `CharRange`: the code points between two ends, both included.
- `CharSet`: ranges in ascending order that neither overlap nor touch; `CharSet.has` is membership
  and the usual operations (`∪`, `∩`, `difference`, `symmetricDifference`, `complement`) keep the
  order. Membership and unions do not depend on it.
- `CharSet.ofHex`: the notation in which larger sets are written down.

Surrogates are code points but no characters. A range may run across them; the neighbours of a code
point (`successor`, `predecessor`) leave them out.
-/

namespace ScanRules

/-- The code points from `first` to `last`. -/
structure CharRange where
  first : Nat
  last : Nat
  deriving DecidableEq, Repr

/-- The greatest code point. -/
def maxCodePoint : Nat := 0x10FFFF

/-- The character after a code point; there is none between the surrogates. -/
def successor (n : Nat) : Nat := if n = 0xD7FF then 0xE000 else n + 1

/-- The character before a code point; there is none between the surrogates. -/
def predecessor (n : Nat) : Nat := if n = 0xE000 then 0xD7FF else n - 1

/-- The range between two code points, whichever of them is the greater. -/
def CharRange.between (a b : Nat) : CharRange := if a ≤ b then ⟨a, b⟩ else ⟨b, a⟩

/-- Is a code point between the ends of a range? -/
def CharRange.contains (r : CharRange) (n : Nat) : Bool := r.first ≤ n && n ≤ r.last

/-- Do two ranges overlap, or is there nothing between them? -/
def CharRange.touches (r s : CharRange) : Bool := max r.first s.first ≤ min r.last s.last + 1

/-- The range from the first to the last code point of two ranges. -/
def CharRange.hull (r s : CharRange) : CharRange := ⟨min r.first s.first, max r.last s.last⟩

/-- A set of characters. -/
structure CharSet where
  ranges : List CharRange
  deriving DecidableEq, Repr

namespace CharSet

/-- The set without members. -/
def empty : CharSet := ⟨[]⟩

/-- All characters. -/
def all : CharSet := ⟨[⟨0, maxCodePoint⟩]⟩

/-- The characters of one range. -/
def range (first last : Nat) : CharSet := ⟨[⟨first, last⟩]⟩

/-- One character. -/
def single (c : Char) : CharSet := range c.toNat c.toNat

/-- Is a code point in one of the ranges? -/
def covers (rs : List CharRange) (n : Nat) : Bool := rs.any (·.contains n)

/-- Is the character a member? -/
def has (s : CharSet) (c : Char) : Bool := covers s.ranges c.toNat

/-- Does the set lack all members? -/
def isEmpty (s : CharSet) : Bool := s.ranges.isEmpty

/-- The only member of a set that has one range with equal ends, which are a character. -/
def only? (s : CharSet) : Option Char :=
  match s.ranges with
  | [r] =>
    let c := Char.ofNat r.first
    if r.first = c.toNat ∧ r.last = c.toNat then some c else none
  | _ => none

/-! ## Union -/

/-- The order of ranges by their first and then their last code points. -/
def before (a b : CharRange) : Bool :=
  a.first < b.first || (a.first = b.first && a.last ≤ b.last)

/-- Puts `x`, and after it what `more` yields, into an ascending list. -/
def weave (x : CharRange) (more : List CharRange → List CharRange) :
    List CharRange → List CharRange
  | [] => x :: more []
  | y :: ys => if before x y then x :: more (y :: ys) else y :: weave x more ys

/-- Two ascending lists as one. -/
def merge : List CharRange → List CharRange → List CharRange
  | [], ys => ys
  | x :: xs, ys => weave x (merge xs) ys

/-- Joins ranges that overlap or touch, starting with `r`. -/
def joinFrom (r : CharRange) : List CharRange → List CharRange
  | [] => [r]
  | s :: rest =>
    if r.touches s then joinFrom (r.hull s) rest else r :: joinFrom s rest

/-- Joins neighbouring ranges that overlap or touch. -/
def join : List CharRange → List CharRange
  | [] => []
  | r :: rest => joinFrom r rest

/-- The characters of either set. -/
def union (s t : CharSet) : CharSet := ⟨join (merge s.ranges t.ranges)⟩

instance : Union CharSet := ⟨union⟩

/-- The set of some code points and ranges in any order. -/
def ofRanges (rs : List CharRange) : CharSet :=
  rs.foldl (fun s r => s ∪ ⟨[r]⟩) empty

/-! ## Intersection, difference, complement -/

/-- The common part of two ranges. -/
def overlap (a b : CharRange) : List CharRange :=
  let first := max a.first b.first
  let last := min a.last b.last
  if first ≤ last then [⟨first, last⟩] else []

/-- The common parts of `a` with the given ranges; `more` goes on when they have passed `a`. -/
def meetFrom (a : CharRange) (more : List CharRange → List CharRange) :
    List CharRange → List CharRange
  | [] => []
  | b :: bs =>
    overlap a b ++ if a.last < b.last then more (b :: bs) else meetFrom a more bs

/-- The common parts of two ascending lists. -/
def meet : List CharRange → List CharRange → List CharRange
  | [], _ => []
  | a :: rest, bs => meetFrom a (meet rest) bs

/-- The characters of both sets. -/
def inter (s t : CharSet) : CharSet := ⟨meet s.ranges t.ranges⟩

instance : Inter CharSet := ⟨inter⟩

/-- What the given ranges leave of `a`; `more` goes on when they have passed `a`. -/
def cutFrom (more : List CharRange → List CharRange) :
    List CharRange → CharRange → List CharRange
  | [], a => a :: more []
  | b :: bs, a =>
    if b.last < a.first then cutFrom more bs a
    else if a.last < b.first then a :: more (b :: bs)
    else
      (if a.first < b.first then [⟨a.first, predecessor b.first⟩] else []) ++
        if b.last < a.last then cutFrom more bs ⟨successor b.last, a.last⟩ else more (b :: bs)

/-- What the second ascending list leaves of the first. -/
def cut : List CharRange → List CharRange → List CharRange
  | [], _ => []
  | a :: rest, bs => cutFrom (cut rest) bs a

/-- The characters of the first set that are not in the second. -/
def difference (s t : CharSet) : CharSet := ⟨cut s.ranges t.ranges⟩

/-- The characters of exactly one of the sets. -/
def symmetricDifference (s t : CharSet) : CharSet := (s ∪ t).difference (s ∩ t)

/-- The gaps after `r` and between the given ranges. Between two ranges that meet at the surrogates
the ends of the gap come in reverse order, and it is read as the range between them. -/
def gapsAfter (r : CharRange) : List CharRange → List CharRange
  | [] => if r.last < maxCodePoint then [⟨successor r.last, maxCodePoint⟩] else []
  | s :: rest => .between (successor r.last) (predecessor s.first) :: gapsAfter s rest

/-- The characters outside of the set. -/
def complement (s : CharSet) : CharSet :=
  match s.ranges with
  | [] => all
  | r :: rest =>
    ⟨(if 0 < r.first then [⟨0, predecessor r.first⟩] else []) ++ gapsAfter r rest⟩

/-! ## Notation -/

/-- Every second code point from `first` on, `count` of them. -/
def alternate (first : Nat) : Nat → List CharRange
  | 0 => []
  | count + 1 => ⟨first, first⟩ :: alternate (first + 2) count

/-- Reads `41` as a code point, `41-5A` as a range, and `41-5A/2` as every second code point of
that. -/
def ofHexEntry (entry : List Char) : List CharRange :=
  let (first, rest) := entry.span (· ≠ '-')
  let (last, step) := rest.tail.span (· ≠ '/')
  let start := hexValue first
  if rest.isEmpty then [⟨start, start⟩]
  else if step.isEmpty then [⟨start, hexValue last⟩]
  else alternate start ((hexValue last - start) / 2 + 1)

/-- Reads a set written as ascending hexadecimal entries between blanks. -/
def ofHex (written : String) : CharSet :=
  ⟨(words written.toList).flatMap ofHexEntry⟩

end CharSet

end ScanRules
