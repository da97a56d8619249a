import ScanRules.Pattern.Fault

/-!
# Reports of faults

A fault is shown below the line of the pattern where it stands, marked by carets.

- `Place`: line and column of a character in a pattern, counted from 1.
- `Mark`: a marked stretch of a pattern.
- `Fault.report`: the whole report.

The lines of a pattern that has several are numbered and framed by rulers. A mark that runs over
the end of a line is described in words instead.
-/

namespace ScanRules.Pattern

/-- A line and a column. -/
structure Place where
  line : Nat
  column : Nat
  deriving DecidableEq, Repr

/-- The place after a character. -/
def Place.after (p : Place) (c : Char) : Place :=
  if c = '\n' then ⟨p.line + 1, 1⟩ else ⟨p.line, p.column + 1⟩

/-- The place at which `left` characters of the pattern are left. -/
def Place.ofLeft (pattern : List Char) (left : Nat) : Place :=
  (pattern.take (pattern.length - left)).foldl Place.after ⟨1, 1⟩

/-- A marked stretch, from one place to another. -/
structure Mark where
  start : Place
  stop : Place
  deriving DecidableEq, Repr

/-- Does the mark stay on its line? -/
def Mark.onOneLine (m : Mark) : Bool := m.start.line == m.stop.line

/-- The extents that a fault marks, in the order in which they stand in the pattern. -/
def Fault.extents (f : Fault) : List Extent :=
  match f.first with
  | none => [f.extent]
  | some first =>
    if first.start > f.extent.start ∨ first.start = f.extent.start ∧ first.stop > f.extent.stop
    then [first, f.extent] else [f.extent, first]

/-- The stretches that a fault marks, in order. -/
def Fault.marks (f : Fault) (pattern : List Char) : List Mark :=
  f.extents.map fun e => ⟨.ofLeft pattern e.start, .ofLeft pattern e.stop⟩

/-- The lines of a text, line ends removed. Text that ends with a line end has no line after it. -/
def linesOf : List Char → List (List Char)
  | [] => []
  | c :: rest =>
    if c = '\n' then [] :: linesOf rest
    else
      match rest, linesOf rest with
      | '\n' :: _, [] :: lines => (if c = '\r' then [] else [c]) :: lines
      | _, line :: lines => (c :: line) :: lines
      | _, [] => [[c]]

/-- Carets under the marks of one line; at least one for every mark. -/
def carets : (column : Nat) → List Mark → List Char
  | _, [] => []
  | column, m :: rest =>
    let width := max 1 (m.stop.column - m.start.column)
    let begin := max column m.start.column
    List.replicate (begin - column) ' ' ++ List.replicate width '^' ++ carets (begin + width) rest

/-- A number, set to the right. -/
def padLeft (width : Nat) (n : Nat) : List Char :=
  let digits := (toString n).toList
  List.replicate (width - digits.length) ' ' ++ digits

/-- The lines of the pattern, each followed by its carets. `width` is the width of the line numbers
and 0 if lines are not numbered. -/
def annotate (width : Nat) (marks : List Mark) : (number : Nat) → List (List Char) → List Char
  | _, [] => []
  | number, line :: rest =>
    let margin := if width = 0 then List.replicate 4 ' ' else padLeft width number ++ [':', ' ']
    let here := marks.filter fun m => m.onOneLine && m.start.line == number
    let notes :=
      if here.isEmpty then []
      else List.replicate margin.length ' ' ++ carets 1 here ++ ['\n']
    margin ++ line ++ '\n' :: notes ++ annotate width marks (number + 1) rest

/-- The description of a mark that runs over line ends. -/
def Mark.describe (m : Mark) : String :=
  s!"on line {m.start.line} (column {m.start.column}) through line {m.stop.line} " ++
    s!"(column {m.stop.column - 1})"

/-- The report of a fault: the pattern with marks, then the wording of the fault. -/
def Fault.report (f : Fault) (pattern : List Char) : String :=
  let lines := linesOf pattern
  let count := lines.length + (if pattern.getLast? = some '\n' then 1 else 0)
  let width := if count ≤ 1 then 0 else (toString count).length
  let marks := f.marks pattern
  let annotated := String.ofList (annotate width marks 1 lines)
  let verdict := "error: " ++ f.kind.message
  if pattern.contains '\n' then
    let ruler := String.ofList (List.replicate 79 '~') ++ "\n"
    let wide := (marks.filter (!·.onOneLine)).map (·.describe ++ "\n")
    let described := if wide.isEmpty then "" else String.join wide
    "regex parse error:\n" ++ ruler ++ annotated ++ ruler ++ described ++ verdict
  else "regex parse error:\n" ++ annotated ++ verdict

end ScanRules.Pattern
