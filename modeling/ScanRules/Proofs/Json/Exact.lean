import ScanRules.Proofs.Json.Lawful
import ScanRules.Proofs.Json.Skipping

/-!
# What readers take written values for

A reader takes a written value for the same, whatever white space is in front of it and whatever
follows it. So it is enough to know what it takes the value for on its own.

- `Json.Reader.on`: what a reader takes a value for, if it accepts it at all.
- `Json.Reads`, `Json.Exact`: reading follows a function, and the function it has to be.
- `Json.Legible`: the types whose readers are of this kind.
- `Json.Reads.scalar`, `Json.Reads.map`, `Json.Reads.optional`, `Json.Reads.list`: the functions of
  the readers that are put together from others.
-/

namespace ScanRules.Json

open Fault

variable {α β : Type}

/-- What a reader takes a value on its own for. -/
def Reader.on (r : Reader α) (w : Written) : Option α := (r.read w.chars).toOption.map (·.1)

/-- What a reader takes a value for is given by a function, wherever the value stands. -/
def Reads (r : Reader α) (f : Written → Option α) : Prop :=
  ∀ (s : Space) (w : Written) {rest : List Char}, Follows rest →
    (r.read (s.1 ++ (w.chars ++ rest))).toOption = (f w).map (·, rest)

/-- What a reader takes a value for does not depend on where the value stands. -/
def Exact (r : Reader α) : Prop := Reads r r.on

/-- The same without white space in front. -/
theorem Reads.bare {r : Reader α} {f : Written → Option α} (h : Reads r f) (w : Written)
    {rest : List Char} (hrest : Follows rest) :
    (r.read (w.chars ++ rest)).toOption = (f w).map (·, rest) :=
  h .none w hrest

theorem Reads.on_eq {r : Reader α} {f : Written → Option α} (h : Reads r f) : r.on = f := by
  funext w
  have hread := h.bare w .nil
  rw [List.append_nil] at hread
  rw [Reader.on, hread]
  cases f w <;> rfl

theorem Reads.exact {r : Reader α} {f : Written → Option α} (h : Reads r f) : Exact r := by
  rw [Exact, h.on_eq]
  exact h

/-- A codec whose reader is exact. -/
class Legible (α : Type) [Codec α] : Prop where
  exact : Exact (Codec.reader : Reader α)

/-! ## Whole texts -/

/-- The value without parts that is written. -/
def Written.scalar? : Written → Option Scalar
  | null => some .null
  | boolean b => some (.boolean b)
  | number n => (readNumber n.chars).toOption.map (·.1)
  | text pieces => (decodePieces pieces).map fun cs => .text (String.ofList cs)
  | list _ _ | object _ _ => none

theorem toOption_readWord (word : List Char) (v : Scalar) (rest : List Char) :
    (readWord word v (word ++ rest)).toOption = some (v, rest) := by
  rw [readWord, dropWord_self]
  rfl

theorem readScalar_number (n : Numeral) (rest : List Char) :
    readScalar (n.chars ++ rest) = readNumber (n.chars ++ rest) := by
  obtain ⟨c, more, hn, hc⟩ := n.exists_chars_eq
  rw [hn, List.cons_append]
  unfold readScalar
  split
  · next h => cases h
  -- a sign or a digit starts nothing else
  iterate 4
    · next h =>
      obtain ⟨rfl, -⟩ := List.cons.inj h
      rcases hc with hc | hc <;> cases hc
  · next h =>
    obtain ⟨rfl, rfl⟩ := List.cons.inj h
    rw [if_pos hc]

theorem toOption_readScalar_quote (text : List Char) :
    (readScalar ('"' :: text)).toOption =
      (readText text).toOption.map fun p => (.text (String.ofList p.1), p.2) := by
  simp only [readScalar]
  cases readText text <;> rfl

/-- Values without parts are read as what they are. -/
theorem toOption_readScalar {w : Written} {rest : List Char} (hrest : Follows rest)
    (hlist : ∀ s items, w ≠ .list s items) (hobject : ∀ s members, w ≠ .object s members) :
    (readScalar (w.chars ++ rest)).toOption = w.scalar?.map (·, rest) := by
  cases w with
  | null => exact toOption_readWord ['u', 'l', 'l'] _ rest
  | boolean b =>
    cases b with
    | false => exact toOption_readWord ['a', 'l', 's', 'e'] _ rest
    | true => exact toOption_readWord ['r', 'u', 'e'] _ rest
  | number n =>
    obtain ⟨v?, hv⟩ := exists_takes_readNumber n
    have halone := hv [] .nil
    rw [List.append_nil] at halone
    show (readScalar (n.chars ++ rest)).toOption = ((readNumber n.chars).toOption.map _).map _
    rw [readScalar_number, hv rest hrest, halone]
    cases v? <;> rfl
  | text pieces =>
    show (readScalar ('"' :: (quoted pieces ++ rest))).toOption =
      ((decodePieces pieces).map _).map _
    rw [toOption_readScalar_quote, readText_quoted]
    cases decodePieces pieces <;> rfl
  | list s items => exact absurd rfl (hlist s items)
  | object s members => exact absurd rfl (hobject s members)

/-- What a value is accepted as, if it has no parts. -/
theorem toOption_readScalarAs {expected : String} {take : Scalar → Except FaultKind α}
    {text more : List Char} (hspace : dropSpace text = more) (hlist : more.head? ≠ some '[')
    (hobject : more.head? ≠ some '{') :
    (readScalarAs expected take text).toOption =
      (readScalar more).toOption.bind fun p => (take p.1).toOption.map (·, p.2) := by
  unfold readScalarAs
  rw [hspace]
  split
  · exact absurd rfl hlist
  · exact absurd rfl hobject
  · cases readScalar more with
    | error f => rfl
    | ok p =>
      show _ = (take p.1).toOption.map _
      simp only
      cases take p.1 <;> rfl

/-- Only a list starts with its bracket. -/
theorem head?_chars_ne_list {w : Written} (rest : List Char)
    (hlist : ∀ s items, w ≠ .list s items) : (w.chars ++ rest).head? ≠ some '[' := by
  obtain ⟨c, more, hw, -, -, -, -, hc, -⟩ := w.exists_chars_eq
  intro h
  rw [hw] at h
  obtain ⟨s, items, heq⟩ := hc (Option.some.inj h)
  exact hlist s items heq

/-- Only an object starts with its bracket. -/
theorem head?_chars_ne_object {w : Written} (rest : List Char)
    (hobject : ∀ s members, w ≠ .object s members) : (w.chars ++ rest).head? ≠ some '{' := by
  obtain ⟨c, more, hw, -, -, -, -, -, hc⟩ := w.exists_chars_eq
  intro h
  rw [hw] at h
  obtain ⟨s, members, heq⟩ := hc (Option.some.inj h)
  exact hobject s members heq

theorem Reads.scalar (expected : String) (take : Scalar → Except FaultKind α) :
    Reads (.scalar expected take) fun w => w.scalar?.bind fun v => (take v).toOption := by
  intro s w rest hrest
  have hspace := dropSpace_space_chars s w rest
  show (readScalarAs expected take (s.1 ++ (w.chars ++ rest))).toOption = _
  by_cases hlist : ∃ inside items, w = .list inside items
  · obtain ⟨inside, items, rfl⟩ := hlist
    unfold readScalarAs
    rw [hspace]
    rfl
  by_cases hobject : ∃ inside members, w = .object inside members
  · obtain ⟨inside, items, rfl⟩ := hobject
    unfold readScalarAs
    rw [hspace]
    rfl
  have hlist' : ∀ s items, w ≠ .list s items := fun s items h => hlist ⟨s, items, h⟩
  have hobject' : ∀ s members, w ≠ .object s members := fun s ms h => hobject ⟨s, ms, h⟩
  rw [toOption_readScalarAs hspace (head?_chars_ne_list rest hlist')
    (head?_chars_ne_object rest hobject'), toOption_readScalar hrest hlist' hobject']
  show _ = (w.scalar?.bind fun v => (take v).toOption).map _
  cases w.scalar? <;> rfl

theorem Reads.map {r : Reader α} {f : Written → Option α} (h : Reads r f) (g : α → β) :
    Reads (r.map g) fun w => (f w).map g := by
  intro s w rest hrest
  have hmap : ∀ text, ((r.map g).read text).toOption =
      (r.read text).toOption.map fun p => (g p.1, p.2) := by
    intro text
    simp only [Reader.map]
    cases r.read text <;> rfl
  rw [hmap, h s w hrest]
  show _ = ((f w).map g).map _
  cases f w <;> rfl

/-! ## Values that may be null -/

/-- What a value is taken for that may be null. -/
def Written.orNull (f : Written → Option α) : Written → Option (Option α)
  | null => some none
  | w => (f w).map some

theorem Written.orNull_of_ne (f : Written → Option α) {w : Written} (h : w ≠ .null) :
    w.orNull f = (f w).map some := by
  cases w with
  | null => exact absurd rfl h
  | _ => rfl

theorem toOption_readOptional {item : Reader α} {text : List Char}
    (h : (dropSpace text).head? ≠ some 'n') :
    (readOptional item text).toOption = (item.read text).toOption.map fun p => (some p.1, p.2) := by
  unfold readOptional
  split
  · next heq =>
    rw [heq] at h
    exact absurd rfl h
  · cases item.read text <;> rfl

theorem Reads.optional {r : Reader α} {f : Written → Option α} (h : Reads r f) :
    Reads r.optional (Written.orNull f) := by
  intro s w rest hrest
  have hspace := dropSpace_space_chars s w rest
  show (readOptional r (s.1 ++ (w.chars ++ rest))).toOption = _
  obtain ⟨c, more, hw, -, -, -, hnull, -⟩ := w.exists_chars_eq
  by_cases hc : c = 'n'
  · obtain rfl := hnull hc
    unfold readOptional
    rw [hspace]
    rfl
  · have hhead : (dropSpace (s.1 ++ (w.chars ++ rest))).head? ≠ some 'n' := by
      rw [hspace, hw]
      exact fun heq => hc (Option.some.inj heq)
    have hne : w ≠ .null := by
      rintro rfl
      exact hc (List.cons.inj hw).1.symm
    rw [toOption_readOptional hhead, h s w hrest, Written.orNull_of_ne f hne]
    cases f w <;> rfl

/-! ## Lists -/

/-- The items of a list. -/
def Written.items? : Written → Option (List Written)
  | list _ items => some (items.map (·.value))
  | _ => none

section Elements

variable {item : Reader α} {f : Written → Option α} {first : Bool} {text next rest : List Char}

theorem toOption_readElements_of_next (h : nextElement? first text = .ok (some next)) :
    (readElements item first text).toOption = (item.read next).toOption.bind fun p =>
      (readElements item false p.2).toOption.map fun q => (p.1 :: q.1, q.2) := by
  rw [readElements]
  split
  · next h' => cases h'.symm.trans h
  · next h' => cases h'.symm.trans h
  · next next' h' =>
    obtain rfl := Option.some.inj (Except.ok.inj (h'.symm.trans h))
    split
    · next hr => rw [hr]; rfl
    · next a more hr =>
      rw [hr]
      show _ = (readElements item false more).toOption.map _
      cases readElements item false more <;> rfl

theorem nextElement?_close (first : Bool) (s : Space) (rest : List Char) :
    nextElement? first (s.1 ++ ']' :: rest) = .ok none := by
  rw [nextElement?, dropSpace_append_cons s rfl]
  rfl

/-- Behind a comma, if there are values in front, the next value is found. -/
theorem nextElement?_chars (first : Bool) (s before : Space) (w : Written) (rest : List Char) :
    nextElement? first (s.1 ++ ((if first then [] else [',']) ++ (before.1 ++ (w.chars ++ rest)))) =
      .ok (some (w.chars ++ rest)) := by
  have hspace := dropSpace_space_chars before w rest
  obtain ⟨c, more, hw, hc, hclose, -⟩ := w.exists_chars_eq
  rw [hw, List.cons_append] at hspace ⊢
  unfold nextElement?
  cases first with
  | true =>
    rw [if_pos rfl, List.nil_append, dropSpace_append, hspace]
    split
    · next h => cases h
    · next h => exact absurd (List.cons.inj h).1 hclose
    · next h => rw [if_pos rfl, h]
  | false =>
    rw [if_neg Bool.false_ne_true, List.singleton_append, dropSpace_append_cons s rfl]
    split
    · next h => cases h
    · next h => exact absurd (List.cons.inj h).1 (by decide)
    · next h =>
      obtain ⟨rfl, rfl⟩ := List.cons.inj h
      rw [if_neg Bool.false_ne_true, if_pos rfl, hspace]
      split
      · next h => cases h
      · next h => exact absurd (List.cons.inj h).1 hclose
      · next h => rw [h]

/-- Elements up to the end of a list, and what is behind the list. -/
def readItems (item : Reader α) (first : Bool) (text : List Char) : Option (List α × List Char) :=
  (readElements item first text).toOption.bind fun p => (dropListEnd p.2).toOption.map (p.1, ·)

/-- Behind an element, the others are read. -/
theorem readItems_of_next (h : nextElement? first text = .ok (some next)) :
    readItems item first text = (item.read next).toOption.bind fun p =>
      (readItems item false p.2).map fun q => (p.1 :: q.1, q.2) := by
  rw [readItems, toOption_readElements_of_next h]
  cases (item.read next).toOption with
  | none => rfl
  | some p =>
    show ((readElements item false p.2).toOption.map _).bind _ = (readItems item false p.2).map _
    unfold readItems
    cases (readElements item false p.2).toOption with
    | none => rfl
    | some q =>
      show (dropListEnd q.2).toOption.map _ = ((dropListEnd q.2).toOption.map _).map _
      rw [Option.map_map]
      rfl

/-- The items of a list are read one by one, by induction on them. -/
theorem readItems_chars (h : Reads item f) (items : List (Padded Written)) (first : Bool)
    (s : Space) (rest : List Char) :
    readItems item first (s.1 ++ (Written.itemsChars first items ++ ']' :: rest)) =
      ((items.map (·.value)).mapM f).map (·, rest) := by
  induction items generalizing first s with
  | nil =>
    have hclose : dropListEnd (s.1 ++ ']' :: rest) = .ok rest := by
      rw [dropListEnd, dropSpace_append_cons s rfl]
      rfl
    have hend : readElements item first (s.1 ++ ']' :: rest) = .ok ([], s.1 ++ ']' :: rest) :=
      readElements_of_end (nextElement?_close first s rest)
    show (readElements item first (s.1 ++ ']' :: rest)).toOption.bind _ = _
    rw [hend]
    show (dropListEnd (s.1 ++ ']' :: rest)).toOption.map _ = _
    rw [hclose]
    rfl
  | cons w items ih =>
    have hfollows := (follows_itemsChars items rest).space w.after
    have hread := h.bare w.value hfollows
    have hmore := ih false w.after
    rw [Written.itemsChars_cons, readItems_of_next (nextElement?_chars first s w.before w.value _),
      List.map_cons, List.mapM_cons, hread]
    cases f w.value with
    | none => rfl
    | some a =>
      show (readItems item false (w.after.1 ++ _)).map _ = _
      rw [hmore]
      cases (items.map (·.value)).mapM f <;> rfl

theorem toOption_readList (h : dropSpace text = '[' :: rest) :
    (readList item text).toOption = readItems item true rest := by
  simp only [readList, readItems, h]
  cases readElements item true rest with
  | error e => rfl
  | ok p =>
    show _ = (dropListEnd p.2).toOption.map _
    simp only
    cases dropListEnd p.2 <;> rfl

theorem toOption_readList_of_ne (h : (dropSpace text).head? ≠ some '[') :
    (readList item text).toOption = none := by
  unfold readList
  split
  · next heq =>
    rw [heq] at h
    exact absurd rfl h
  · rfl

end Elements

theorem Reads.list {r : Reader α} {f : Written → Option α} (h : Reads r f) :
    Reads r.list fun w => w.items?.bind (·.mapM f) := by
  intro s w rest hrest
  have hspace := dropSpace_space_chars s w rest
  show (readList r (s.1 ++ (w.chars ++ rest))).toOption = _
  by_cases hlist : ∃ inside items, w = .list inside items
  · obtain ⟨inside, items, rfl⟩ := hlist
    have hopen : (Written.list inside items).chars ++ rest =
        '[' :: (inside.1 ++ (Written.itemsChars true items ++ ']' :: rest)) := by
      simp [Written.chars]
    rw [toOption_readList (hspace.trans hopen)]
    exact readItems_chars h items true inside rest
  · have hitems : w.items? = none := by
      cases w with
      | list inside items => exact absurd ⟨inside, items, rfl⟩ hlist
      | _ => rfl
    have hhead : (dropSpace (s.1 ++ (w.chars ++ rest))).head? ≠ some '[' := by
      rw [hspace]
      exact head?_chars_ne_list rest fun inside items h => hlist ⟨inside, items, h⟩
    show _ = (w.items?.bind _).map _
    rw [toOption_readList_of_ne hhead, hitems]
    rfl

end ScanRules.Json
