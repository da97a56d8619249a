import ScanRules.Pattern.Expr
import ScanRules.Pattern.Tree
import ScanRules.Unicode.Folding
import ScanRules.Unicode.Query

/-!
# Meaning of patterns

From trees to expressions. What a part of a pattern means depends on the switches that are on where
it stands.

- `Modes`: the switches, and how settings change them (`Modes.apply`).
- `ClassTree.members`: the characters of a class.
- `Tree.meaning`: the expression of a tree and the modes after it. Settings last until the end of
  the group that they stand in, also across its alternatives.

Where Unicode is off, classes range over ASCII. What could match bytes that are not text is a
fault there: the dot, complements, and bytes above ASCII.
-/

namespace ScanRules.Pattern

/-- The switches that the meaning of a part depends on. -/
structure Modes where
  ignoreCase : Bool := false
  multiLine : Bool := false
  dotAll : Bool := false
  swapGreed : Bool := false
  unicode : Bool := true
  crlf : Bool := false
  deriving DecidableEq, Repr

/-- The modes after some settings. -/
def Modes.apply (m : Modes) (settings : Settings) : Modes :=
  { ignoreCase := (settings.get? .ignoreCase).getD m.ignoreCase
    multiLine := (settings.get? .multiLine).getD m.multiLine
    dotAll := (settings.get? .dotAll).getD m.dotAll
    swapGreed := (settings.get? .swapGreed).getD m.swapGreed
    unicode := (settings.get? .unicode).getD m.unicode
    crlf := (settings.get? .crlf).getD m.crlf }

/-! ## Sets -/

/-- The set with its case variants, if case does not count. -/
def Modes.fold (m : Modes) (s : CharSet) : CharSet :=
  if !m.ignoreCase then s else if m.unicode then s.foldCase else s.foldAsciiCase

/-- Applies case and negation to a set at `extent`. Case goes first, so that a negated set excludes
all variants of its characters. -/
def Modes.foldAndNegate (m : Modes) (negated : Bool) (extent : Extent) (s : CharSet) :
    Except Fault CharSet :=
  if !negated then .ok (m.fold s)
  else if m.unicode then .ok (m.fold s).complement
  else .error ⟨.notUnicodeText, extent, none⟩

/-- The ASCII characters of a class. -/
def AsciiClass.members : AsciiClass → CharSet
  | alnum => .ofHex "30-39 41-5A 61-7A"
  | alpha => .ofHex "41-5A 61-7A"
  | ascii => .ofHex "0-7F"
  | blank => .ofHex "9 20"
  | cntrl => .ofHex "0-1F 7F"
  | digit => .ofHex "30-39"
  | graph => .ofHex "21-7E"
  | lower => .ofHex "61-7A"
  | print => .ofHex "20-7E"
  | punct => .ofHex "21-2F 3A-40 5B-60 7B-7E"
  | space => .ofHex "9-D 20"
  | upper => .ofHex "41-5A"
  | word => .ofHex "30-39 41-5A 5F 61-7A"
  | xdigit => .ofHex "30-39 41-46 61-66"

/-- The characters of `\d`, `\s` or `\w`. -/
def ShorthandClass.members (unicode : Bool) : ShorthandClass → CharSet
  | digit => if unicode then Unicode.Category.decimalNumber else AsciiClass.digit.members
  | space => if unicode then Unicode.Property.whiteSpace else AsciiClass.space.members
  | word => if unicode then Unicode.Property.word else AsciiClass.word.members

/-- The characters of a class written with a letter. These sets are closed under case variants. -/
def Modes.shorthand (m : Modes) (kind : ShorthandClass) (negated : Bool) (extent : Extent) :
    Except Fault CharSet :=
  let s := kind.members m.unicode
  if !negated then .ok s
  else if m.unicode then .ok s.complement
  else .error ⟨.notUnicodeText, extent, none⟩

/-- The characters that a query finds. -/
def PropertyQuery.members : PropertyQuery → Except Unicode.QueryFault CharSet
  | named name => Unicode.named? name
  | valued property value => Unicode.valued? property value

/-- The characters with a property. -/
def Modes.property (m : Modes) (query : PropertyQuery) (negated : Bool) (extent : Extent) :
    Except Fault CharSet :=
  if !m.unicode then .error ⟨.unicodeNotAllowed, extent, none⟩
  else
    match query.members with
    | .ok s => m.foldAndNegate negated extent s
    | .error .unknownProperty => .error ⟨.propertyUnknown, extent, none⟩
    | .error .unknownValue => .error ⟨.propertyValueUnknown, extent, none⟩

/-- The character that a literal stands for. -/
def Modes.literal (m : Modes) (l : Literal) : Except Fault Char :=
  if !m.unicode && l.isByte && 128 ≤ l.char.toNat then .error ⟨.notUnicodeText, l.extent, none⟩
  else .ok l.char

/-- The character that a literal in a class stands for. -/
def Modes.classLiteral (m : Modes) (l : Literal) : Except Fault Char := do
  let c ← m.literal l
  if !m.unicode && 128 ≤ c.toNat then .error ⟨.unicodeNotAllowed, l.extent, none⟩ else return c

/-- Combines two sets. -/
def SetOperation.apply (op : SetOperation) (s t : CharSet) : CharSet :=
  match op with
  | intersection => s ∩ t
  | difference => s.difference t
  | symmetricDifference => s.symmetricDifference t

mutual

/-- The characters of a class. -/
def ClassTree.members (m : Modes) : ClassTree → Except Fault CharSet
  | .nothing _ => .ok .empty
  | .literal l => do return .single (← m.classLiteral l)
  | .range first last _ => do
    let low ← m.classLiteral first
    let high ← m.classLiteral last
    return .range low.toNat high.toNat
  | .ascii kind negated e => m.foldAndNegate negated e kind.members
  | .property query negated e => m.property query negated e
  | .shorthand kind negated e => m.shorthand kind negated e
  | .bracketed negated body e => do m.foldAndNegate negated e (← body.members m)
  | .union items _ => ClassTree.membersOfAny m items
  | .operation op left right _ => do
    let s ← left.members m
    let t ← right.members m
    return op.apply (m.fold s) (m.fold t)

/-- The characters of any of some classes. -/
def ClassTree.membersOfAny (m : Modes) : List ClassTree → Except Fault CharSet
  | [] => .ok .empty
  | item :: rest => do
    let s ← item.members m
    let t ← ClassTree.membersOfAny m rest
    return s ∪ t

end

/-! ## Expressions -/

/-- The expression of a character: itself, or the set of its case variants. -/
def Modes.charExpr (m : Modes) (c : Char) : Expr :=
  if !m.ignoreCase then .literal [c] else .ofSet (m.fold (.single c)) m.unicode

/-- The expression of the dot. -/
def Modes.dot (m : Modes) (extent : Extent) : Except Fault Expr :=
  if !m.unicode then .error ⟨.notUnicodeText, extent, none⟩
  else if m.dotAll then .ok (.ofSet .all true)
  else if m.crlf then .ok (.ofSet (CharSet.ofHex "A D").complement true)
  else .ok (.ofSet (CharSet.ofHex "A").complement true)

/-- The expression of an assertion. -/
def Modes.assertion (m : Modes) (kind : AssertionKind) : Look :=
  match kind with
  | .lineStart => if m.multiLine then .lineStart m.crlf else .textStart
  | .lineEnd => if m.multiLine then .lineEnd m.crlf else .textEnd
  | .textStart => .textStart
  | .textEnd => .textEnd
  | .wordBoundary => .word .boundary m.unicode
  | .notWordBoundary => .word .inside m.unicode
  | .wordStart => .word .start m.unicode
  | .wordEnd => .word .stop m.unicode
  | .wordStartHalf => .word .startHalf m.unicode
  | .wordEndHalf => .word .stopHalf m.unicode

mutual

/-- The expression of a tree, and the modes that hold after it. -/
def Tree.meaning (m : Modes) : Tree → Except Fault (Expr × Modes)
  | .empty _ => .ok (.empty, m)
  | .settings changes _ => .ok (.empty, m.apply changes)
  | .literal l => do return (m.charExpr (← m.literal l), m)
  | .dot e => do return (← m.dot e, m)
  | .assertion kind _ => .ok (.look (m.assertion kind), m)
  | .property query negated e => do return (.ofSet (← m.property query negated e) true, m)
  | .shorthand kind negated e => do return (.ofSet (← m.shorthand kind negated e) m.unicode, m)
  | .bracketed negated body e => do
    let s ← m.foldAndNegate negated e (← body.members m)
    return (.ofSet s m.unicode, m)
  | .repetition body least most greedy _ => do
    let (e, m) ← body.meaning m
    return (e.repeat least most (greedy != m.swapGreed), m)
  | .group (.plain changes) body _ => do
    let (e, _) ← body.meaning (m.apply changes)
    return (e, m)
  | .group (.capture index) body _ => do
    let (e, _) ← body.meaning m
    return (.capture index e, m)
  | .concat parts _ => do
    let (es, m) ← Tree.meanings m parts
    return (.sequence es, m)
  | .alternation branches _ => do
    let (es, m) ← Tree.meanings m branches
    return (.choice es, m)

/-- The expressions of some trees, each in the modes that hold after the one before it. -/
def Tree.meanings (m : Modes) : List Tree → Except Fault (List Expr × Modes)
  | [] => .ok ([], m)
  | tree :: rest => do
    let (e, m) ← tree.meaning m
    let (es, m) ← Tree.meanings m rest
    return (e :: es, m)

end

end ScanRules.Pattern
