/-!
# Offsets in bytes

Offsets into a text count the bytes of its UTF-8 form.

- `byteSize`: the size of a text.
- `seek?`: the text from an offset on, together with the character in front of it.

An offset that lies inside of a character or beyond the text has no text from there on.
-/

namespace ScanRules

/-- The size of a text in UTF-8. -/
def byteSize (text : List Char) : Nat :=
  text.foldr (fun c size => c.utf8Size + size) 0

@[simp] theorem byteSize_nil : byteSize [] = 0 := rfl

@[simp] theorem byteSize_cons (c : Char) (text : List Char) :
    byteSize (c :: text) = c.utf8Size + byteSize text := rfl

@[simp] theorem byteSize_append (a b : List Char) :
    byteSize (a ++ b) = byteSize a + byteSize b := by
  induction a with
  | nil => simp
  | cons c a ih => rw [List.cons_append, byteSize_cons, byteSize_cons, ih, Nat.add_assoc]

/-- The text from an offset on and the character in front of it; `before` stands in front of the
whole text. -/
def seek? (before : Option Char) (text : List Char) (offset : Nat) :
    Option (Option Char × List Char) :=
  match text, offset with
  | text, 0 => some (before, text)
  | [], _ + 1 => none
  | c :: rest, offset =>
    if c.utf8Size ≤ offset then seek? (some c) rest (offset - c.utf8Size) else none

end ScanRules
