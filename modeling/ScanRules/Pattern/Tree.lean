import ScanRules.Pattern.Fault

/-!
# Pattern trees

Patterns as they are written, before flags have been applied to them.

- `Tree`: what a pattern is made of, each part with its extent.
- `ClassTree`: the inside of a bracketed class.
- `Tree.extent`, `ClassTree.extent`: where a part stands.
-/

namespace ScanRules.Pattern

/-- The switches that `(?...)` turns on and off. -/
inductive Switch where
  | ignoreCase
  | multiLine
  | dotAll
  | swapGreed
  | unicode
  | crlf
  | verbose
  deriving DecidableEq, Repr

/-- A list of switches with their new settings. Each switch occurs at most once. -/
abbrev Settings := List (Switch × Bool)

/-- The new setting of a switch, if it has one. -/
def Settings.get? (settings : Settings) (s : Switch) : Option Bool :=
  settings.lookup s

/-- The positions in a text that an assertion can be about. -/
inductive AssertionKind where
  | lineStart
  | lineEnd
  | textStart
  | textEnd
  | wordBoundary
  | notWordBoundary
  | wordStart
  | wordEnd
  | wordStartHalf
  | wordEndHalf
  deriving DecidableEq, Repr

/-- The classes that are written `\d`, `\s` and `\w`. -/
inductive ShorthandClass where
  | digit
  | space
  | word
  deriving DecidableEq, Repr

/-- The classes that are written `[:name:]` inside of brackets. -/
inductive AsciiClass where
  | alnum
  | alpha
  | ascii
  | blank
  | cntrl
  | digit
  | graph
  | lower
  | print
  | punct
  | space
  | upper
  | word
  | xdigit
  deriving DecidableEq, Repr

/-- A class of characters asked for by property: `\p{name}` or `\p{property=value}`. -/
inductive PropertyQuery where
  | named (name : List Char)
  | valued (property value : List Char)
  deriving DecidableEq, Repr

/-- One written character. `isByte` tells the form `\xHH`, which stands for a byte where Unicode is
turned off. -/
structure Literal where
  char : Char
  isByte : Bool
  extent : Extent
  deriving DecidableEq, Repr

/-- The operations on sets inside of brackets. -/
inductive SetOperation where
  | intersection
  | difference
  | symmetricDifference
  deriving DecidableEq, Repr

/-- The inside of a bracketed class. -/
inductive ClassTree where
  | nothing (extent : Extent)
  | literal (literal : Literal)
  | range (first last : Literal) (extent : Extent)
  | ascii (kind : AsciiClass) (negated : Bool) (extent : Extent)
  | property (query : PropertyQuery) (negated : Bool) (extent : Extent)
  | shorthand (kind : ShorthandClass) (negated : Bool) (extent : Extent)
  | bracketed (negated : Bool) (body : ClassTree) (extent : Extent)
  | union (items : List ClassTree) (extent : Extent)
  | operation (op : SetOperation) (left right : ClassTree) (extent : Extent)

/-- Where a part of a class stands. -/
def ClassTree.extent : ClassTree → Extent
  | literal l => l.extent
  | nothing e | range _ _ e | ascii _ _ e | property _ _ e | shorthand _ _ e | bracketed _ _ e
  | union _ e | operation _ _ _ e => e

/-- The kinds of groups: the numbered ones and those that only carry settings. -/
inductive GroupKind where
  | capture (index : Nat)
  | plain (settings : Settings)
  deriving DecidableEq, Repr

/-- A pattern as it is written. -/
inductive Tree where
  | empty (extent : Extent)
  | settings (settings : Settings) (extent : Extent)
  | literal (literal : Literal)
  | dot (extent : Extent)
  | assertion (kind : AssertionKind) (extent : Extent)
  | property (query : PropertyQuery) (negated : Bool) (extent : Extent)
  | shorthand (kind : ShorthandClass) (negated : Bool) (extent : Extent)
  | bracketed (negated : Bool) (body : ClassTree) (extent : Extent)
  | repetition (body : Tree) (least : Nat) (most : Option Nat) (greedy : Bool) (extent : Extent)
  | group (kind : GroupKind) (body : Tree) (extent : Extent)
  | concat (parts : List Tree) (extent : Extent)
  | alternation (branches : List Tree) (extent : Extent)

/-- Where a part of a pattern stands. -/
def Tree.extent : Tree → Extent
  | literal l => l.extent
  | empty e | settings _ e | dot e | assertion _ e | property _ _ e | shorthand _ _ e
  | bracketed _ _ e | repetition _ _ _ _ e | group _ _ e | concat _ e | alternation _ e => e

end ScanRules.Pattern
