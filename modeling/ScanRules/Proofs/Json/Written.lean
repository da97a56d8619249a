import ScanRules.Proofs.Json.Scalar

/-!
# JSON as it is written

The grammar of JSON, with all that leaves a choice to the writer: white space, escapes, and the form
of numbers.

- `Json.Space`, `Json.Padded`: white space, and something with white space around it.
- `Json.Piece`, `Json.decodePieces`: how a character of a text is written, and the text that pieces
  make up. Halves of surrogate pairs on their own make up none.
- `Json.Key`: a text as the key of a member.
- `Json.Numeral`: a number.
- `Json.Written`, `Json.Written.chars`: a value, and its text.
- `Json.Follows`: what may follow a value.
-/

namespace ScanRules.Json

/-- White space. -/
def Space := { s : List Char // ∀ c ∈ s, isSpace c }

/-- No white space. -/
def Space.none : Space := ⟨[], List.forall_mem_nil _⟩

/-- Something with white space around it. -/
structure Padded (α : Type) where
  before : Space
  value : α
  after : Space

/-- Something without white space around it. -/
def Padded.bare {α : Type} (a : α) : Padded α := ⟨.none, a, .none⟩

/-! ## Texts -/

/-- Four hexadecimal digits. -/
structure CodeUnit where
  digits : Char × Char × Char × Char
  hex : [digits.1, digits.2.1, digits.2.2.1, digits.2.2.2].all isHexDigit

namespace CodeUnit

/-- The digits in a row. -/
def chars (u : CodeUnit) : List Char := [u.digits.1, u.digits.2.1, u.digits.2.2.1, u.digits.2.2.2]

/-- The number that the digits make up. -/
def value (u : CodeUnit) : Nat := hexValue u.chars

/-- Is it the first half of a surrogate pair? -/
def IsHigh (u : CodeUnit) : Prop := 0xD800 ≤ u.value ∧ u.value ≤ 0xDBFF

/-- Is it the second half of a surrogate pair? -/
def IsLow (u : CodeUnit) : Prop := 0xDC00 ≤ u.value ∧ u.value ≤ 0xDFFF

instance (u : CodeUnit) : Decidable u.IsHigh := inferInstanceAs (Decidable (_ ∧ _))

instance (u : CodeUnit) : Decidable u.IsLow := inferInstanceAs (Decidable (_ ∧ _))

end CodeUnit

/-- The character of a surrogate pair. -/
def pairChar (high low : CodeUnit) : Char :=
  Char.ofNat (0x10000 + (high.value - 0xD800) * 0x400 + (low.value - 0xDC00))

/-- A character between quotes: as it is, with an escape of one letter, or by number. -/
inductive Piece where
  | plain (c : Char) (free : c ≠ '"' ∧ c ≠ '\\' ∧ ¬ c.toNat < 0x20)
  | letter (c d : Char) (escape : letterEscape? c = some d)
  | unit (u : CodeUnit)

/-- The piece as it is written. -/
def Piece.chars : Piece → List Char
  | plain c _ => [c]
  | letter c _ _ => ['\\', c]
  | unit u => '\\' :: 'u' :: u.chars

/-- The text that pieces make up. A number from the first half of the surrogates makes up a
character with one from the second half right behind it; no other use of surrogates means
anything. -/
def decodePieces : List Piece → Option (List Char)
  | [] => some []
  | .plain c _ :: ps => (decodePieces ps).map (c :: ·)
  | .letter _ d _ :: ps => (decodePieces ps).map (d :: ·)
  | .unit u :: .unit v :: ps =>
    if u.IsHigh then
      if v.IsLow then (decodePieces ps).map (pairChar u v :: ·) else none
    else if u.IsLow then none
    else (decodePieces (.unit v :: ps)).map (Char.ofNat u.value :: ·)
  | .unit u :: ps =>
    if u.IsHigh ∨ u.IsLow then none
    else (decodePieces ps).map (Char.ofNat u.value :: ·)

/-- The pieces and the quote behind them. -/
def quoted (pieces : List Piece) : List Char := pieces.flatMap Piece.chars ++ ['"']

/-- A text as a key, with white space around it. -/
structure Key where
  before : Space
  pieces : List Piece
  after : Space
  name : String
  decodes : decodePieces pieces = some name.toList

/-- The key as it is written. -/
def Key.chars (k : Key) : List Char := k.before.1 ++ '"' :: quoted k.pieces ++ k.after.1

/-- Characters that need no escape, each as it is. -/
def plainPieces (cs : List Char) (free : ∀ c ∈ cs, c ≠ '"' ∧ c ≠ '\\' ∧ ¬ c.toNat < 0x20) :
    List Piece :=
  cs.pmap .plain free

theorem decodePieces_plainPieces (cs : List Char)
    (free : ∀ c ∈ cs, c ≠ '"' ∧ c ≠ '\\' ∧ ¬ c.toNat < 0x20) :
    decodePieces (plainPieces cs free) = some cs := by
  induction cs with
  | nil => rfl
  | cons c cs ih =>
    show (decodePieces (plainPieces cs _)).map (c :: ·) = _
    rw [ih]
    rfl

/-- A key without escapes. -/
def Key.plain (name : String)
    (free : name.toList.all fun c => c ≠ '"' ∧ c ≠ '\\' ∧ ¬ c.toNat < 0x20) : Key :=
  have hfree := fun c hc => of_decide_eq_true (List.all_eq_true.1 free c hc)
  ⟨.none, plainPieces name.toList hfree, .none, name, decodePieces_plainPieces _ _⟩

/-! ## Numbers -/

/-- At least one decimal digit. -/
def Digits := { ds : List Char // ds ≠ [] ∧ ∀ d ∈ ds, d.isDigit }

/-- The exponent of a number. -/
structure Exponent where
  capital : Bool
  sign : Option Bool
  digits : Digits

/-- The sign of an exponent as it is written. -/
def Exponent.signChars (e : Exponent) : List Char :=
  e.sign.elim [] fun minus => if minus then ['-'] else ['+']

/-- The exponent as it is written. -/
def Exponent.chars (e : Exponent) : List Char :=
  (if e.capital then 'E' else 'e') :: e.signChars ++ e.digits.1

/-- A number. Only zero starts with a zero. -/
structure Numeral where
  negative : Bool
  whole : Digits
  leading : whole.1.head? = some '0' → whole.1 = ['0']
  fraction : Option Digits
  exponent : Option Exponent

namespace Numeral

/-- What follows the digits in front of the point. -/
def tail (n : Numeral) : List Char :=
  (n.fraction.elim [] fun digits => '.' :: digits.1) ++ n.exponent.elim [] Exponent.chars

/-- The number as it is written. -/
def chars (n : Numeral) : List Char :=
  (if n.negative then ['-'] else []) ++ n.whole.1 ++ n.tail

end Numeral

/-! ## Values -/

/-- A value as it is written. -/
inductive Written where
  | null
  | boolean (value : Bool)
  | number (n : Numeral)
  | text (pieces : List Piece)
  | list (inside : Space) (items : List (Padded Written))
  | object (inside : Space) (members : List (Key × Padded Written))

namespace Written

mutual

/-- The text of a value. -/
def chars : Written → List Char
  | null => ['n', 'u', 'l', 'l']
  | boolean true => ['t', 'r', 'u', 'e']
  | boolean false => ['f', 'a', 'l', 's', 'e']
  | number n => n.chars
  | text pieces => '"' :: quoted pieces
  | list inside items => '[' :: (inside.1 ++ itemsChars true items) ++ [']']
  | object inside members => '{' :: (inside.1 ++ membersChars true members) ++ ['}']

/-- Values with commas between them; `first` says that none is in front of them. -/
def itemsChars (first : Bool) : List (Padded Written) → List Char
  | [] => []
  | ⟨before, v, after⟩ :: items =>
    (if first then [] else [',']) ++ before.1 ++ v.chars ++ after.1 ++ itemsChars false items

/-- Members with commas between them; `first` says that none is in front of them. -/
def membersChars (first : Bool) : List (Key × Padded Written) → List Char
  | [] => []
  | (k, ⟨before, v, after⟩) :: members =>
    (if first then [] else [',']) ++ k.chars ++ ':' :: before.1 ++ v.chars ++ after.1 ++
      membersChars false members

end

end Written

theorem Written.itemsChars_cons (first : Bool) (item : Padded Written)
    (items : List (Padded Written)) (rest : List Char) :
    itemsChars first (item :: items) ++ rest =
      (if first then [] else [',']) ++ (item.before.1 ++ (item.value.chars ++
        (item.after.1 ++ (itemsChars false items ++ rest)))) := by
  simp [itemsChars]

theorem Written.membersChars_cons (first : Bool) (k : Key) (item : Padded Written)
    (members : List (Key × Padded Written)) (rest : List Char) :
    membersChars first ((k, item) :: members) ++ rest =
      (if first then [] else [',']) ++ (k.before.1 ++ '"' :: (quoted k.pieces ++ (k.after.1 ++
        ':' :: (item.before.1 ++ (item.value.chars ++
          (item.after.1 ++ (membersChars false members ++ rest))))))) := by
  simp [membersChars, Key.chars]

/-- The text of a value with white space around it. -/
def Padded.chars (w : Padded Written) : List Char := w.before.1 ++ w.value.chars ++ w.after.1

/-! ## What follows -/

/-- What may follow a value: nothing, white space, or what separates and closes. -/
def Follows (rest : List Char) : Prop :=
  ∀ c, rest.head? = some c → isSpace c ∨ c = ',' ∨ c = ']' ∨ c = '}'

theorem Follows.nil : Follows [] := fun _ h => nomatch h

theorem Follows.cons {c : Char} (h : isSpace c ∨ c = ',' ∨ c = ']' ∨ c = '}') (rest : List Char) :
    Follows (c :: rest) := by
  intro d hd
  obtain rfl := Option.some.inj hd
  exact h

theorem Follows.space {rest : List Char} (h : Follows rest) (s : Space) :
    Follows (s.1 ++ rest) := by
  obtain ⟨chars, hs⟩ := s
  cases chars with
  | nil => exact h
  | cons c more => exact .cons (.inl (hs c List.mem_cons_self)) _

/-- Behind an item or a member there is a comma or the end. -/
theorem follows_itemsChars (items : List (Padded Written)) (rest : List Char) :
    Follows (Written.itemsChars false items ++ ']' :: rest) := by
  cases items with
  | nil => exact .cons (by simp) _
  | cons item items =>
    rw [Written.itemsChars]
    exact .cons (by simp) _

theorem follows_membersChars (members : List (Key × Padded Written)) (rest : List Char) :
    Follows (Written.membersChars false members ++ '}' :: rest) := by
  cases members with
  | nil => exact .cons (by simp) _
  | cons m members =>
    rw [Written.membersChars]
    exact .cons (by simp) _

/-! ## What values start with -/

theorem ne_of_isDigit {c d : Char} (hc : c.isDigit) (hd : d.isDigit = false) : c ≠ d := by
  rintro rfl
  cases hd.symm.trans hc

theorem isSpace_eq_false {c : Char} (h : c ≠ ' ' ∧ c ≠ '\n' ∧ c ≠ '\t' ∧ c ≠ '\r') :
    isSpace c = false := by
  simp [isSpace, h]

/-- Nothing that may follow a value is a digit. -/
theorem Follows.isDigit {rest : List Char} (h : Follows rest) :
    ∀ c, rest.head? = some c → c.isDigit = false := by
  intro c hc
  rcases h c hc with hspace | rfl | rfl | rfl
  · rw [Bool.eq_false_iff]
    intro hdigit
    have hne : ∀ d : Char, d.isDigit = false → c ≠ d := fun d => ne_of_isDigit hdigit
    have hfalse : isSpace c = false := isSpace_eq_false
      ⟨hne ' ' rfl, hne '\n' rfl, hne '\t' rfl, hne '\r' rfl⟩
    cases hspace.symm.trans hfalse
  all_goals rfl

/-- A number starts with a sign or a digit. -/
theorem Numeral.exists_chars_eq (n : Numeral) :
    ∃ c more, n.chars = c :: more ∧ (c = '-' ∨ c.isDigit) := by
  obtain ⟨negative, ⟨whole, hne, hdigits⟩, _, fraction, exponent⟩ := n
  obtain ⟨d, ds, rfl⟩ := List.exists_cons_of_ne_nil hne
  cases negative with
  | true => exact ⟨_, _, rfl, .inl rfl⟩
  | false => exact ⟨_, _, rfl, .inr (hdigits d List.mem_cons_self)⟩

/-- No value starts with white space or with what separates and closes, and null, lists and objects
are told by what they start with. -/
theorem Written.exists_chars_eq (w : Written) :
    ∃ c more, w.chars = c :: more ∧ isSpace c = false ∧ c ≠ ']' ∧ c ≠ '}' ∧
      (c = 'n' → w = .null) ∧ (c = '[' → ∃ s items, w = .list s items) ∧
      (c = '{' → ∃ s members, w = .object s members) := by
  cases w with
  | null => exact ⟨_, _, rfl, rfl, by decide, by decide, fun _ => rfl, nofun, nofun⟩
  | boolean b => cases b <;> exact ⟨_, _, rfl, rfl, by decide, by decide, nofun, nofun, nofun⟩
  | number n =>
    obtain ⟨c, more, hn, hc⟩ := n.exists_chars_eq
    have hne : ∀ d : Char, d ≠ '-' → d.isDigit = false → c ≠ d := by
      rintro d hsign hdigit rfl
      rcases hc with rfl | hc
      · exact hsign rfl
      · exact ne_of_isDigit hc hdigit rfl
    refine ⟨c, more, hn, isSpace_eq_false ⟨?_, ?_, ?_, ?_⟩, ?_, ?_, fun h => ?_, fun h => ?_,
      fun h => ?_⟩
    iterate 6 exact hne _ (by decide) rfl
    all_goals exact absurd h (hne _ (by decide) rfl)
  | text pieces => exact ⟨_, _, rfl, rfl, by decide, by decide, nofun, nofun, nofun⟩
  | list inside items =>
    exact ⟨_, _, rfl, rfl, by decide, by decide, nofun, fun _ => ⟨inside, items, rfl⟩, nofun⟩
  | object inside members =>
    exact ⟨_, _, rfl, rfl, by decide, by decide, nofun, nofun, fun _ => ⟨inside, members, rfl⟩⟩

/-! ## White space -/

theorem dropSpace_append (s : Space) (rest : List Char) :
    dropSpace (s.1 ++ rest) = dropSpace rest :=
  List.dropWhile_append_of_pos s.2

theorem dropSpace_cons {c : Char} (h : isSpace c = false) (rest : List Char) :
    dropSpace (c :: rest) = c :: rest :=
  List.dropWhile_cons_of_neg (by simp [h])

theorem dropSpace_append_cons {c : Char} (s : Space) (h : isSpace c = false) (rest : List Char) :
    dropSpace (s.1 ++ c :: rest) = c :: rest := by
  rw [dropSpace_append, dropSpace_cons h]

theorem dropSpace_chars (w : Written) (rest : List Char) :
    dropSpace (w.chars ++ rest) = w.chars ++ rest := by
  obtain ⟨c, more, hw, hspace, -⟩ := w.exists_chars_eq
  rw [hw, List.cons_append, dropSpace_cons hspace]

end ScanRules.Json
