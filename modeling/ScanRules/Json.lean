import ScanRules.Json.Text

/-!
# JSON

- `Json`: the values.
- `Json.render`: a value as text, without any white space. Members of objects keep their order.
-/

namespace ScanRules

/-- A JSON value whose numbers are integers. -/
inductive Json where
  | null
  | boolean (value : Bool)
  | integer (value : Int)
  | text (value : String)
  | list (items : List Json)
  | object (members : List (String × Json))

namespace Json

/-- An integer in decimal. -/
def integerText (n : Int) : List Char :=
  if n < 0 then '-' :: Nat.toDigits 10 n.natAbs else Nat.toDigits 10 n.natAbs

mutual

/-- A value as text. -/
def render : Json → List Char
  | null => ['n', 'u', 'l', 'l']
  | boolean true => ['t', 'r', 'u', 'e']
  | boolean false => ['f', 'a', 'l', 's', 'e']
  | integer n => integerText n
  | text s => quoteText s.toList
  | list items => '[' :: renderItems items ++ [']']
  | object members => '{' :: renderMembers members ++ ['}']

/-- Values as text, with commas between them. -/
def renderItems : List Json → List Char
  | [] => []
  | [v] => render v
  | v :: w :: vs => render v ++ ',' :: renderItems (w :: vs)

/-- Members as text, with commas between them. -/
def renderMembers : List (String × Json) → List Char
  | [] => []
  | [(k, v)] => quoteText k.toList ++ ':' :: render v
  | (k, v) :: m :: ms => quoteText k.toList ++ ':' :: render v ++ ',' :: renderMembers (m :: ms)

end

end Json

end ScanRules
