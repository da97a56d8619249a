import ScanRules.Pattern.Reader.Layout
import ScanRules.Pattern.Tree
import ScanRules.Unicode.Property

/-!
# Openings of groups

Reading what follows an opening parenthesis: switches, names, or nothing.

- `readSwitches`: switches such as `i-s` up to a colon or a closing parenthesis.
- `readGroupName`: a name up to its closing angle bracket.
- `readOpening`: the kind of group that a parenthesis opens, or the settings that it makes.
-/

namespace ScanRules.Pattern

/-- The switch of a letter. -/
def Switch.ofChar? (c : Char) : Option Switch :=
  match c with
  | 'i' => some .ignoreCase
  | 'm' => some .multiLine
  | 's' => some .dotAll
  | 'U' => some .swapGreed
  | 'u' => some .unicode
  | 'R' => some .crlf
  | 'x' => some .verbose
  | _ => none

/-- Switches that have been read, last first, each with its place; `hyphen` is the place of the
hyphen after which switches are turned off, and `dangling` tells that no switch followed it. -/
structure SwitchesRead where
  items : List (Switch × Bool × Extent) := []
  hyphen : Option Extent := none
  dangling : Bool := false

/-- The settings that were read. -/
def SwitchesRead.settings (read : SwitchesRead) : Settings :=
  read.items.reverse.map fun (s, on, _) => (s, on)

/-- Reads switches up to a colon or closing parenthesis, which stays in front of the text. -/
def readSwitches (read : SwitchesRead) :
    List Char → Except Fault (SwitchesRead × List Char)
  | [] => .error ⟨.flagMissing, .before [], none⟩
  | c :: rest =>
    let here := Extent.ofFirst (c :: rest)
    if c = ':' ∨ c = ')' then
      match read.hyphen with
      | some hyphen =>
        if read.dangling then .error ⟨.flagDanglingNegation, hyphen, none⟩
        else .ok (read, c :: rest)
      | none => .ok (read, c :: rest)
    else if c = '-' then
      match read.hyphen with
      | some hyphen => .error ⟨.flagRepeatedNegation, here, some hyphen⟩
      | none => readSwitches { read with hyphen := some here, dangling := true } rest
    else
      match Switch.ofChar? c with
      | none => .error ⟨.flagUnknown, here, none⟩
      | some s =>
        match read.items.find? (·.1 = s) with
        | some (_, _, first) => .error ⟨.flagDuplicate, here, some first⟩
        | none =>
          let item := (s, read.hyphen.isNone, here)
          readSwitches { read with items := item :: read.items, dangling := false } rest

/-- May a character stand in the name of a group? Names start with a letter or underscore. -/
def isNameChar (first : Bool) (c : Char) : Bool :=
  c == '_' || Unicode.Property.alphabetic.has c ||
    (!first && (c == '.' || c == '[' || c == ']' || Unicode.Category.number.has c))

/-- Reads the name of a group and the angle bracket after it. -/
def readNameChars (first : Bool) : List Char → Except Fault (List Char × List Char)
  | [] => .error ⟨.groupNameUnclosed, .before [], none⟩
  | c :: rest =>
    if c = '>' then .ok ([], rest)
    else if isNameChar first c then do
      let (name, remainder) ← readNameChars false rest
      return (c :: name, remainder)
    else .error ⟨.groupNameInvalid, .ofFirst (c :: rest), none⟩

/-- The names of groups so far, each with its place. -/
abbrev GroupNames := List (List Char × Extent)

/-- Reads the name of a group, which has to be new. -/
def readGroupName (names : GroupNames) (text : List Char) :
    Except Fault (GroupNames × List Char) := do
  let (name, remainder) ← readNameChars true text
  let extent : Extent := ⟨text.length, remainder.length + 1⟩
  if name.isEmpty then .error ⟨.groupNameEmpty, .before text, none⟩
  else
    match names.lookup name with
    | some first => .error ⟨.groupNameDuplicate, extent, some first⟩
    | none => return ((name, extent) :: names, remainder)

/-- What an opening parenthesis begins. -/
inductive Opening where
  | settings (settings : Settings)
  | plain (settings : Settings)
  | capture (names : GroupNames)

/-- The marks of look-around, which patterns do not have. -/
def lookAroundMarks : List (List Char) :=
  [['?', '='], ['?', '!'], ['?', '<', '='], ['?', '<', '!']]

/-- Reads what an opening parenthesis begins, `text` being what follows it. -/
def readOpening (verbose : Bool) (names : GroupNames) (text : List Char) :
    Except Fault (Opening × List Char) := do
  let start := text.length + 1
  let inside := skipLayout verbose text
  match lookAroundMarks.find? (·.isPrefixOf inside) with
  | some mark => .error ⟨.lookAround, ⟨start, inside.length - mark.length⟩, none⟩
  | none =>
    match inside with
    | '?' :: 'P' :: '<' :: rest =>
      let (names, remainder) ← readGroupName names rest
      return (.capture names, remainder)
    | '?' :: '<' :: rest =>
      let (names, remainder) ← readGroupName names rest
      return (.capture names, remainder)
    | '?' :: [] => .error ⟨.groupUnclosed, ⟨start, start - 1⟩, none⟩
    | '?' :: rest =>
      let (read, remainder) ← readSwitches {} rest
      if remainder.head? = some ':' then return (.plain read.settings, remainder.drop 1)
      else if read.items.isEmpty then .error ⟨.repetitionMissing, .before inside, none⟩
      else return (.settings read.settings, remainder.drop 1)
    | _ => return (.capture names, inside)

end ScanRules.Pattern
