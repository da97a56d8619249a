import ScanRules.Text.Blank

/-!
# Layout of verbose patterns

A verbose pattern may be spread over lines and carry comments: blanks do not count, and neither
does what stands between `#` and the end of the line.

- `skipLayout`: the text after blanks and comments.
- `takeSpaced`: the longest stretch of characters of one sort, between which layout may stand.
- `afterLayout?`: the next character that counts, as a hyphen in a class looks ahead for it.

Each takes whether the pattern is verbose; if it is not, all characters count.
-/

namespace ScanRules.Pattern

/-- Drops blanks and comments; `inComment` tells that a comment has been opened. -/
def dropLayout : (inComment : Bool) → List Char → List Char
  | _, [] => []
  | true, c :: rest => dropLayout (c != '\n') rest
  | false, c :: rest =>
    if isBlank c then dropLayout false rest
    else if c = '#' then dropLayout true rest
    else c :: rest

/-- The text from the first character on that counts. -/
def skipLayout (verbose : Bool) (text : List Char) : List Char :=
  if verbose then dropLayout false text else text

/-- Takes characters of the sort `p` from a verbose text, dropping layout, and gives back what
follows them. -/
def takeVerbose (p : Char → Bool) : (inComment : Bool) → List Char → List Char × List Char
  | _, [] => ([], [])
  | true, c :: rest => takeVerbose p (c != '\n') rest
  | false, c :: rest =>
    if isBlank c then takeVerbose p false rest
    else if c = '#' then takeVerbose p true rest
    else if p c then
      let (taken, remainder) := takeVerbose p false rest
      (c :: taken, remainder)
    else ([], c :: rest)

/-- Takes characters of the sort `p` and gives back what follows them. -/
def takeSpaced (verbose : Bool) (p : Char → Bool) (text : List Char) : List Char × List Char :=
  if verbose then takeVerbose p false text else (text.takeWhile p, text.dropWhile p)

/-- The first character that is no blank; the first `#` is passed over as well. -/
def nextVisible? : (seenHash : Bool) → List Char → Option Char
  | _, [] => none
  | seenHash, c :: rest =>
    if isBlank c then nextVisible? seenHash rest
    else if !seenHash && c == '#' then nextVisible? true rest
    else some c

/-- The next character that counts. Of a comment only the opening is passed over, and a text of
layout alone gives its first character. -/
def afterLayout? (verbose : Bool) (text : List Char) : Option Char :=
  if verbose then (nextVisible? false text).or text.head? else text.head?

end ScanRules.Pattern
