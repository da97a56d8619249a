/-!
# Blanks

- `isBlank`: the white space that patterns in verbose form may be laid out with and that may
  surround the names of flags. It is the white space of Unicode.
- `trimBlanks`: a text without blanks at its ends.
- `words`: the parts of a text between blanks.
-/

namespace ScanRules

/-- White space in the sense of Unicode. -/
def isBlank (c : Char) : Bool :=
  let n := c.toNat
  (9 ≤ n && n ≤ 13) || n == 0x20 || n == 0x85 || n == 0xA0 || n == 0x1680 ||
    (0x2000 ≤ n && n ≤ 0x200A) || n == 0x2028 || n == 0x2029 || n == 0x202F || n == 0x205F ||
    n == 0x3000

/-- The text without blanks at its start. -/
def dropBlanks (text : List Char) : List Char :=
  text.dropWhile isBlank

/-- The text without blanks at its ends. -/
def trimBlanks (text : List Char) : List Char :=
  (dropBlanks (dropBlanks text).reverse).reverse

/-- Splits a text at its blanks. `word` is the part in progress, its last character first. -/
def wordsFrom (word : List Char) : List Char → List (List Char)
  | [] => if word.isEmpty then [] else [word.reverse]
  | c :: rest =>
    if !isBlank c then wordsFrom (c :: word) rest
    else if word.isEmpty then wordsFrom [] rest
    else word.reverse :: wordsFrom [] rest

/-- The parts of a text between blanks. -/
def words (text : List Char) : List (List Char) := wordsFrom [] text

end ScanRules
