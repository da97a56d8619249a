import ScanRules.Pattern.Reader.Escape

/-!
# Bracketed classes

Reading classes such as `[^a-z\d&&[:word:]]`.

- `OpenClass`: a class whose closing bracket has not come yet, with what has been read of it.
- `readClass`: the class that a text starts with. Classes inside of classes are kept on a list of
  open ones, the innermost first.

The three operations bind equally and to the left; what stands between two of them is one union.
-/

namespace ScanRules.Pattern

/-- An open class. `items` holds the current union, last item first, and `unionStart` tells where
that union begins; `pending` is an operation that waits for it as its right side. -/
structure OpenClass where
  negated : Bool
  opening : Extent
  pending : Option (SetOperation × ClassTree)
  items : List ClassTree
  unionStart : Nat

namespace OpenClass

/-- Adds an item to the current union. -/
def push (c : OpenClass) (item : ClassTree) : OpenClass :=
  { c with items := item :: c.items }

/-- The current union as one tree. -/
def unionTree (c : OpenClass) : ClassTree :=
  match c.items.reverse with
  | [] => .nothing ⟨c.unionStart, c.unionStart⟩
  | [item] => item
  | first :: rest =>
    .union (first :: rest) ⟨first.extent.start, (c.items.headD first).extent.stop⟩

/-- The current union, with the pending operation applied to it. -/
def finished (c : OpenClass) : ClassTree :=
  let right := c.unionTree
  match c.pending with
  | none => right
  | some (op, left) => .operation op left right ⟨left.extent.start, right.extent.stop⟩

/-- Begins the right side of an operation at `unionStart`. -/
def operate (c : OpenClass) (op : SetOperation) (unionStart : Nat) : OpenClass :=
  { c with pending := some (op, c.finished), items := [], unionStart := unionStart }

/-- The fault of a class whose closing bracket is missing. -/
def unclosed (c : OpenClass) : Fault := ⟨.classUnclosed, c.opening, none⟩

end OpenClass

/-- Reads the hyphens at the start of a class, which stand for themselves; `skip` characters are
layout still to be passed over. -/
def readHyphens (verbose : Bool) : (skip : Nat) → List Char → List ClassTree × List Char
  | _, [] => ([], [])
  | skip + 1, _ :: rest => readHyphens verbose skip rest
  | 0, c :: rest =>
    if c = '-' then
      let (more, remainder) :=
        readHyphens verbose (rest.length - (skipLayout verbose rest).length) rest
      (.literal ⟨'-', false, .ofFirst (c :: rest)⟩ :: more, remainder)
    else ([], c :: rest)

/-- Reads the opening of a class: the bracket, a caret, hyphens, and a closing bracket that stands
for itself because no class is empty. `text` is what follows the opening bracket. -/
def openClass (verbose : Bool) (text : List Char) :
    Except Fault (OpenClass × List Char) := do
  let start := text.length + 1
  let atEnd (stop : Nat) : Except Fault (OpenClass × List Char) :=
    .error ⟨.classUnclosed, ⟨start, stop⟩, none⟩
  let afterBracket := skipLayout verbose text
  let (negated, body) :=
    match afterBracket with
    | '^' :: rest => (true, skipLayout verbose rest)
    | _ => (false, afterBracket)
  if body.isEmpty then return ← atEnd 0
  match readHyphens verbose 0 body with
  | (_, []) => atEnd start
  | ([], ']' :: rest) =>
    match skipLayout verbose rest with
    | [] => atEnd 0
    | remainder =>
      let bracket : ClassTree := .literal ⟨']', false, .ofFirst body⟩
      return (⟨negated, ⟨start, remainder.length⟩, none, [bracket], body.length⟩, remainder)
  | (hyphens, remainder) =>
    return (⟨negated, ⟨start, remainder.length⟩, none, hyphens.reverse, body.length⟩, remainder)

/-- The classes that have names between `[:` and `:]`. -/
def AsciiClass.names : List (String × AsciiClass) :=
  [ ("alnum", .alnum), ("alpha", .alpha), ("ascii", .ascii), ("blank", .blank),
    ("cntrl", .cntrl), ("digit", .digit), ("graph", .graph), ("lower", .lower),
    ("print", .print), ("punct", .punct), ("space", .space), ("upper", .upper),
    ("word", .word), ("xdigit", .xdigit) ]

/-- The class of a name. -/
def AsciiClass.ofName? (name : List Char) : Option AsciiClass :=
  (names.find? fun p => p.1.toList == name).map (·.2)

/-- Reads `[:name:]` or `[:^name:]`, if the text starts with one; `text` is what follows the
bracket. Anything else is left to be read as a class. -/
def readAsciiClass? (text : List Char) : Option (ClassTree × List Char) :=
  match text with
  | ':' :: afterColon =>
    let (negated, named) :=
      match afterColon with
      | '^' :: rest => (true, rest)
      | _ => (false, afterColon)
    match named.takeWhile (· != ':'), named.dropWhile (· != ':') with
    | name, ':' :: ']' :: rest =>
      (AsciiClass.ofName? name).map fun kind =>
        (.ascii kind negated ⟨text.length + 1, rest.length⟩, rest)
    | _, _ => none
  | _ => none

/-- Reads one end of a range or a single item: an escape sequence or any character. -/
def readClassPart (verbose : Bool) (c : Char) (rest : List Char) : ReadsTree :=
  if c = '\\' then readEscape verbose rest
  else .ok (.literal ⟨c, false, .ofFirst (c :: rest)⟩, rest)

/-- What an escape sequence stands for inside of brackets. Assertions have no meaning there. -/
def Tree.toClassItem : Tree → Except Fault ClassTree
  | .literal l => .ok (.literal l)
  | .shorthand kind negated e => .ok (.shorthand kind negated e)
  | .property query negated e => .ok (.property query negated e)
  | other => .error ⟨.classEscapeInvalid, other.extent, none⟩

/-- The literal that an end of a range has to be. -/
def Tree.toRangeEnd : Tree → Except Fault Literal
  | .literal l => .ok l
  | other => .error ⟨.classRangeNotLiteral, other.extent, none⟩

/-- Reads an item or a range. A hyphen makes a range unless a closing bracket or another hyphen
comes after it. -/
def readClassItem (verbose : Bool) (current : OpenClass) (c : Char) (rest : List Char) :
    Except Fault (ClassTree × List Char) := do
  let (first, afterFirst) ← readClassPart verbose c rest
  match skipLayout verbose afterFirst with
  | [] => .error current.unclosed
  | '-' :: afterHyphen =>
    let next := afterLayout? verbose afterHyphen
    if next = some ']' ∨ next = some '-' then
      return (← first.toClassItem, '-' :: afterHyphen)
    else
      match skipLayout verbose afterHyphen with
      | [] => .error current.unclosed
      | d :: afterLast =>
        let (last, remainder) ← readClassPart verbose d afterLast
        let extent : Extent := ⟨first.extent.start, last.extent.stop⟩
        let low ← first.toRangeEnd
        let high ← last.toRangeEnd
        if low.char ≤ high.char then return (.range low high extent, remainder)
        else .error ⟨.classRangeInvalid, extent, none⟩
  | remainder => return (← first.toClassItem, remainder)

/-- The operation that a text starts with. -/
def setOperation? : List Char → Option SetOperation
  | '&' :: '&' :: _ => some .intersection
  | '-' :: '-' :: _ => some .difference
  | '~' :: '~' :: _ => some .symmetricDifference
  | _ => none

/-- Where the reading of a class goes on: inside of an open class, or after the outermost one. -/
inductive ClassStep where
  | inside (current : OpenClass) (outer : List OpenClass) (text : List Char)
  | done (tree : Tree) (text : List Char)

/-- Reads the next piece of a class, which starts with `c`. -/
def readClassStep (verbose : Bool) (current : OpenClass) (outer : List OpenClass)
    (c : Char) (rest : List Char) : Except Fault ClassStep :=
  match c, setOperation? (c :: rest) with
  | '[', _ =>
    match readAsciiClass? rest with
    | some (item, remainder) => .ok (.inside (current.push item) outer remainder)
    | none => do
      let (inner, remainder) ← openClass verbose rest
      return .inside inner (current :: outer) remainder
  | ']', _ =>
    let extent : Extent := ⟨current.opening.start, rest.length⟩
    match outer with
    | [] => .ok (.done (.bracketed current.negated current.finished extent) rest)
    | parent :: further =>
      .ok (.inside (parent.push (.bracketed current.negated current.finished extent))
        further rest)
  | _, some op => .ok (.inside (current.operate op (rest.length - 1)) outer (rest.drop 1))
  | _, none => do
    let (item, remainder) ← readClassItem verbose current c rest
    return .inside (current.push item) outer remainder

/-- Reads an open class to its end; `skip` characters of the text have been read already. -/
def readClassBody (verbose : Bool) (current : OpenClass) (outer : List OpenClass) :
    (skip : Nat) → List Char → ReadsTree
  | _, [] => .error current.unclosed
  | skip + 1, _ :: rest => readClassBody verbose current outer skip rest
  | 0, c :: rest =>
    match skipLayout verbose (c :: rest) with
    | [] => .error current.unclosed
    | d :: after =>
      if after.length < rest.length then
        readClassBody verbose current outer (rest.length - after.length - 1) rest
      else
        match readClassStep verbose current outer d after with
        | .error fault => .error fault
        | .ok (.done tree remainder) => .ok (tree, remainder)
        | .ok (.inside current outer remainder) =>
          readClassBody verbose current outer (rest.length - remainder.length) rest

/-- Reads a class, `text` being what follows its opening bracket. -/
def readClass (verbose : Bool) (text : List Char) : ReadsTree := do
  let (current, remainder) ← openClass verbose text
  readClassBody verbose current [] 0 remainder

end ScanRules.Pattern
