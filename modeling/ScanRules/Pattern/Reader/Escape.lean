import ScanRules.CharSet
import ScanRules.Pattern.Reader.Layout
import ScanRules.Pattern.Tree

/-!
# Escape sequences

Reading what follows a backslash: characters by name or by number, classes, and assertions.

- `readEscape`: the escape sequence that a text starts with, as a tree.
- `isMeta`, `isEscapable`: the characters that a backslash makes literal.
-/

namespace ScanRules.Pattern

/-- What reading a part gives: the part and the text after it, or a fault. -/
abbrev ReadsTree := Except Fault (Tree × List Char)

/-- The characters with a meaning of their own in patterns. -/
def isMeta (c : Char) : Bool :=
  c ∈ ['\\', '.', '+', '*', '?', '(', ')', '|', '[', ']', '{', '}', '^', '$', '#', '&', '-',
    '~']

/-- The characters that stand for themselves after a backslash: all of ASCII but letters, digits
and angle brackets. -/
def isEscapable (c : Char) : Bool :=
  isMeta c || (c.toNat < 128 && !c.isAlphanum && c != '<' && c != '>')

/-- The character with a number written in hexadecimal digits. -/
def hexChar? (digits : List Char) : Option Char :=
  let n := hexValue digits
  if n < 0xD800 ∨ (0xDFFF < n ∧ n ≤ maxCodePoint) then some (Char.ofNat n) else none

/-- Reads `count` hexadecimal digits. -/
def readHexDigits (verbose : Bool) :
    (count : Nat) → List Char → Except Fault (List Char × List Char)
  | 0, text => .ok ([], text)
  | _ + 1, [] => .error ⟨.escapeAtEnd, .before [], none⟩
  | count + 1, c :: rest =>
    if isHexDigit c then do
      let (digits, remainder) ← readHexDigits verbose count (skipLayout verbose rest)
      return (c :: digits, remainder)
    else .error ⟨.hexDigitInvalid, .ofFirst (c :: rest), none⟩

/-- Reads a character number between braces; `text` starts with the opening brace. -/
def readHexBraced (verbose : Bool) (start : Nat) (text : List Char) : ReadsTree :=
  let inside := text.drop 1
  match takeSpaced verbose isHexDigit (skipLayout verbose inside) with
  | (_, []) => .error ⟨.escapeAtEnd, ⟨text.length, 0⟩, none⟩
  | (digits, c :: rest) =>
    if c ≠ '}' then .error ⟨.hexDigitInvalid, .ofFirst (c :: rest), none⟩
    else
      let remainder := skipLayout verbose rest
      if digits.isEmpty then .error ⟨.hexEmpty, ⟨text.length, remainder.length⟩, none⟩
      else
        match hexChar? digits with
        | none => .error ⟨.hexInvalid, ⟨inside.length, rest.length + 1⟩, none⟩
        | some char => .ok (.literal ⟨char, false, ⟨start, remainder.length⟩⟩, remainder)

/-- Reads a character number of `count` digits, or of any length between braces. -/
def readHex (verbose : Bool) (start count : Nat) (text : List Char) : ReadsTree :=
  match skipLayout verbose text with
  | [] => .error ⟨.escapeAtEnd, .before [], none⟩
  | '{' :: rest => readHexBraced verbose start ('{' :: rest)
  | number => do
    let (digits, remainder) ← readHexDigits verbose count number
    match hexChar? digits with
    | none => .error ⟨.hexInvalid, ⟨number.length, remainder.length⟩, none⟩
    | some char => return (.literal ⟨char, count == 2, ⟨start, remainder.length⟩⟩, remainder)

/-- Splits a list at the first place where it continues with `mark`. -/
def splitAtMark? (mark : List Char) : List Char → Option (List Char × List Char)
  | [] => none
  | c :: rest =>
    if mark.isPrefixOf (c :: rest) then some ([], (c :: rest).drop mark.length)
    else (splitAtMark? mark rest).map fun (front, back) => (c :: front, back)

/-- The query between the braces of `\p`. Of the marks `!=`, `:` and `=`, the first that occurs at
all separates a property from its value. -/
def PropertyQuery.ofText (text : List Char) : PropertyQuery :=
  match (splitAtMark? ['!', '='] text).or
      ((splitAtMark? [':'] text).or (splitAtMark? ['='] text)) with
  | some (property, value) => .valued property value
  | none => .named text

/-- Reads the name of a property, which is one letter or stands between braces. -/
def readProperty (verbose negated : Bool) (start : Nat) (text : List Char) : ReadsTree :=
  match skipLayout verbose text with
  | [] => .error ⟨.escapeAtEnd, .before [], none⟩
  | '{' :: inside =>
    match takeSpaced verbose (· != '}') (skipLayout verbose inside) with
    | (_, []) => .error ⟨.escapeAtEnd, .before [], none⟩
    | (name, _ :: rest) =>
      .ok (.property (.ofText name) negated ⟨start, rest.length⟩, rest)
  | '\\' :: rest => .error ⟨.propertyInvalid, .ofFirst ('\\' :: rest), none⟩
  | letter :: rest =>
    let remainder := skipLayout verbose rest
    .ok (.property (.named [letter]) negated ⟨start, remainder.length⟩, remainder)

/-- The boundaries that are written out between braces after `\b`. -/
def specialBoundary? (name : List Char) : Option AssertionKind :=
  if name = "start".toList then some .wordStart
  else if name = "end".toList then some .wordEnd
  else if name = "start-half".toList then some .wordStartHalf
  else if name = "end-half".toList then some .wordEndHalf
  else none

/-- Reads what follows `\b`. An opening brace belongs to the boundary if a letter or a hyphen comes
next; otherwise a counted repetition starts with it. -/
def readBoundary (verbose : Bool) (start : Nat) (text : List Char) : ReadsTree :=
  let plain : ReadsTree := .ok (.assertion .wordBoundary ⟨start, text.length⟩, text)
  let isNameChar (c : Char) : Bool := c.isAlpha || c == '-'
  match text with
  | '{' :: inside =>
    match skipLayout verbose inside with
    | [] => .error ⟨.wordBoundaryOrRepetitionUnclosed, ⟨start, 0⟩, none⟩
    | contents@(c :: _) =>
      if isNameChar c then
        match takeSpaced verbose isNameChar contents with
        | (name, '}' :: rest) =>
          match specialBoundary? name with
          | some kind => .ok (.assertion kind ⟨start, rest.length⟩, rest)
          | none => .error ⟨.wordBoundaryUnknown, ⟨contents.length, rest.length + 1⟩, none⟩
        | (_, rest) => .error ⟨.wordBoundaryUnclosed, ⟨text.length, rest.length⟩, none⟩
      else plain
  | _ => plain

/-- The control characters with a letter of their own. -/
def controlChar? (c : Char) : Option Char :=
  match c with
  | 'a' => some '\x07'
  | 'f' => some '\x0c'
  | 't' => some '\t'
  | 'n' => some '\n'
  | 'r' => some '\r'
  | 'v' => some '\x0b'
  | _ => none

/-- The assertions with a character of their own, the word boundary apart. -/
def assertion? (c : Char) : Option AssertionKind :=
  match c with
  | 'A' => some .textStart
  | 'z' => some .textEnd
  | 'B' => some .notWordBoundary
  | '<' => some .wordStart
  | '>' => some .wordEnd
  | _ => none

/-- The classes with a letter of their own; the capital letter stands for the complement. -/
def shorthandClass? (c : Char) : Option (ShorthandClass × Bool) :=
  match c with
  | 'd' => some (.digit, false)
  | 's' => some (.space, false)
  | 'w' => some (.word, false)
  | 'D' => some (.digit, true)
  | 'S' => some (.space, true)
  | 'W' => some (.word, true)
  | _ => none

/-- Reads the escape sequence that starts with a backslash, `text` being what follows it. -/
def readEscape (verbose : Bool) (text : List Char) : ReadsTree :=
  let start := text.length + 1
  match text with
  | [] => .error ⟨.escapeAtEnd, ⟨start, 0⟩, none⟩
  | c :: rest =>
    let extent : Extent := ⟨start, rest.length⟩
    if c.isDigit then .error ⟨.backreference, extent, none⟩
    else if c = 'x' then readHex verbose start 2 rest
    else if c = 'u' then readHex verbose start 4 rest
    else if c = 'U' then readHex verbose start 8 rest
    else if c = 'p' ∨ c = 'P' then readProperty verbose (c == 'P') start rest
    else if c = 'b' then readBoundary verbose start rest
    else if isEscapable c then .ok (.literal ⟨c, false, extent⟩, rest)
    else
      match shorthandClass? c, controlChar? c, assertion? c with
      | some (kind, negated), _, _ => .ok (.shorthand kind negated extent, rest)
      | none, some control, _ => .ok (.literal ⟨control, false, extent⟩, rest)
      | none, none, some kind => .ok (.assertion kind extent, rest)
      | none, none, none => .error ⟨.escapeUnknown, extent, none⟩

end ScanRules.Pattern
