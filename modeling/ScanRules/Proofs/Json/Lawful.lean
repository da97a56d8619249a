import ScanRules.Json.Forms
import ScanRules.Proofs.Flags
import ScanRules.Proofs.Json.Scalar

/-!
# Lawful codecs

A codec is lawful if it reads what it has written, whatever follows there that may follow a value.

- `Json.exists_render_eq`: what values start with.
- `Json.Lawful`: such codecs.
- `Json.RoundTrips`, `Json.roundTrips_of_lawful`: what this means for whole texts.
- The codecs of texts, truth values, flags, numbers and lists are lawful, and those of values that
  may be missing, if no value is written as null (`Json.NeverNull`).
-/

namespace ScanRules.Json

open Fault

/-- No value starts with white space, like the end of a list or, unless it is null, like null. -/
theorem exists_render_eq (v : Json) :
    ∃ c more, v.render = c :: more ∧ isSpace c = false ∧ c ≠ ']' ∧ (v ≠ .null → c ≠ 'n') := by
  cases v with
  | null => exact ⟨_, _, rfl, rfl, by decide, fun h => absurd rfl h⟩
  | boolean b => cases b <;> exact ⟨_, _, rfl, rfl, by decide, fun _ => by decide⟩
  | integer i =>
    obtain ⟨c, more, hi, hc⟩ := exists_integerText_eq i
    have hne : ∀ d : Char, d ≠ '-' → d.isDigit = false → c ≠ d := by
      rintro d hsign hdigit rfl
      rcases hc with rfl | hc
      · exact hsign rfl
      · cases hdigit.symm.trans hc
    refine ⟨c, more, hi, ?_, hne ']' (by decide) rfl, fun _ => hne 'n' (by decide) rfl⟩
    simp [isSpace, hne ' ' (by decide) rfl, hne '\n' (by decide) rfl, hne '\t' (by decide) rfl,
      hne '\r' (by decide) rfl]
  | text s => exact ⟨_, _, rfl, rfl, by decide, fun _ => by decide⟩
  | list items => exact ⟨_, _, rfl, rfl, by decide, fun _ => by decide⟩
  | object members => exact ⟨_, _, rfl, rfl, by decide, fun _ => by decide⟩

theorem dropSpace_render (v : Json) (rest : List Char) :
    dropSpace (v.render ++ rest) = v.render ++ rest := by
  obtain ⟨c, more, hrender, hspace, -⟩ := exists_render_eq v
  rw [hrender, List.cons_append, dropSpace, List.dropWhile_cons_of_neg (by simp [hspace])]

/-- A codec that reads what it has written. -/
class Lawful (α : Type) [Codec α] : Prop where
  read_render : ∀ (a : α) {rest : List Char}, Closed rest →
    (Codec.reader : Reader α).read ((toJson a).render ++ rest) = .ok (a, rest)

/-- A codec that never writes null. -/
class NeverNull (α : Type) [Codec α] : Prop where
  toJson_ne_null : ∀ a : α, toJson a ≠ .null

/-- What has been written is read again, as a whole text. -/
theorem decode_encode {α : Type} [Codec α] [Lawful α] (a : α) : decode α (encode a) = .ok a := by
  have hclosed : Closed [] := fun _ h => nomatch h
  have hread := Lawful.read_render a hclosed
  rw [List.append_nil] at hread
  simp only [decode, encode, String.toList_ofList, hread]
  rfl

/-- Values are read as they were written, and what has been read from any text does not change any
more when it is written and read again. -/
def RoundTrips (α : Type) [Codec α] : Prop :=
  (∀ a : α, decode α (encode a) = .ok a) ∧
    ∀ (text : String) (a : α), decode α text = .ok a →
      ∃ b, decode α (encode a) = .ok b ∧ b = a ∧ encode b = encode a

theorem roundTrips_of_lawful (α : Type) [Codec α] [Lawful α] : RoundTrips α :=
  ⟨decode_encode, fun _ a _ => ⟨a, decode_encode a, rfl, rfl⟩⟩

/-! ## Values without parts -/

theorem readScalarAs_of_readScalar {α : Type} {expected : String}
    {take : Scalar → Except FaultKind α} {text rest : List Char} {v : Scalar} {a : α}
    (hspace : dropSpace text = text) (h : readScalar text = .ok (v, rest)) (ha : take v = .ok a) :
    readScalarAs expected take text = .ok (a, rest) := by
  unfold readScalarAs
  rw [hspace]
  split
  · cases h
  · cases h
  · simp only [h, ha]

theorem Reader.read_map_of {α β : Type} (f : α → β) {r : Reader α} {text rest : List Char} {a : α}
    (h : r.read text = .ok (a, rest)) : (r.map f).read text = .ok (f a, rest) := by
  simp only [Reader.map, h]

theorem readScalar_text (s : String) (rest : List Char) :
    readScalar ((Json.text s).render ++ rest) = .ok (.text s, rest) := by
  simp [render, quoteText, readScalar, readText_escaped]

theorem readScalar_boolean (b : Bool) (rest : List Char) :
    readScalar ((Json.boolean b).render ++ rest) = .ok (.boolean b, rest) := by
  cases b <;> simp [render, readScalar, readWord, dropWord]

theorem readScalar_integer {i : Int} (hlow : -(UInt64.size / 2 : Nat) ≤ i)
    (hhigh : i < UInt64.size) {rest : List Char} (hrest : Closed rest) :
    readScalar ((Json.integer i).render ++ rest) = .ok (.integer i, rest) := by
  have hread := readNumber_integerText hlow hhigh hrest
  obtain ⟨c, more, hi, hc⟩ := exists_integerText_eq i
  have hrender : (Json.integer i).render = c :: more := hi
  rw [hi, List.cons_append] at hread
  rw [hrender, List.cons_append]
  unfold readScalar
  split
  · next h => cases h
  -- a sign or a digit starts nothing else
  iterate 4
    · next h =>
      obtain ⟨rfl, -⟩ := List.cons.inj h
      rcases hc with hc | hc <;> cases hc
  · next h =>
    obtain ⟨rfl, rfl⟩ := List.cons.inj h
    rw [if_pos hc, hread]

instance : Lawful String where
  read_render s rest _ := by
    show readScalarAs "a string" (Codec.takeText "a string") ((toJson s).render ++ rest) = _
    exact readScalarAs_of_readScalar (dropSpace_render _ _) (readScalar_text s rest) rfl

instance : NeverNull String where
  toJson_ne_null _ h := nomatch h

instance : Lawful Bool where
  read_render b rest _ := by
    show readScalarAs "a boolean" (Codec.takeBoolean "a boolean") ((toJson b).render ++ rest) = _
    exact readScalarAs_of_readScalar (dropSpace_render _ _) (readScalar_boolean b rest) rfl

instance : Lawful Flags where
  read_render f rest _ := by
    have htake : Codec.takeTextBy Flags.expected .badFlags Flags.ofWritten (.text f.written) =
        .ok f := by
      simp only [Codec.takeTextBy, Codec.takeText, Flags.ofWritten_written]
    show readScalarAs Flags.expected (Codec.takeTextBy Flags.expected .badFlags Flags.ofWritten)
      ((toJson f).render ++ rest) = _
    exact readScalarAs_of_readScalar (dropSpace_render _ _) (readScalar_text f.written rest) htake

instance : Lawful Int64 where
  read_render n rest hrest := by
    have hlow := n.minValue_le_toInt
    have hhigh := n.toInt_le
    have hmin : Int64.minValue.toInt = -(UInt64.size / 2 : Nat) := by decide
    have hmax : Int64.maxValue.toInt < UInt64.size := by decide
    have htake : Codec.takeInteger Int64.minValue.toInt Int64.maxValue.toInt "i64"
        (.integer n.toInt) = .ok n.toInt := if_pos ⟨hlow, hhigh⟩
    have hscalar := readScalar_integer (hmin ▸ hlow) (Int.lt_of_le_of_lt hhigh hmax) hrest
    have hread := Reader.read_map_of Int64.ofInt (r := .scalar "i64" (Codec.takeInteger
      Int64.minValue.toInt Int64.maxValue.toInt "i64"))
      (readScalarAs_of_readScalar (dropSpace_render _ rest) hscalar htake)
    rwa [Int64.ofInt_toInt] at hread

instance : NeverNull Int64 where
  toJson_ne_null _ h := nomatch h

/-! ## Values that may be missing -/

instance {α : Type} [Codec α] [Lawful α] [NeverNull α] : Lawful (Option α) where
  read_render a? rest hrest := by
    show readOptional (Codec.reader : Reader α) ((toJson a?).render ++ rest) = _
    unfold readOptional
    rw [dropSpace_render]
    cases a? with
    | none => rfl
    | some a =>
      have hread : (Codec.reader : Reader α).read ((toJson (some a)).render ++ rest) =
          .ok (a, rest) := Lawful.read_render a hrest
      obtain ⟨c, more, hrender, -, -, hnull⟩ := exists_render_eq (toJson (some a))
      split
      · next h =>
        rw [hrender] at h
        exact absurd (List.cons.inj h).1 (hnull (NeverNull.toJson_ne_null a))
      · rw [hread]

/-! ## Lists -/

theorem renderItems_cons (v : Json) (vs : List Json) :
    renderItems (v :: vs) = v.render ++ vs.flatMap fun w => ',' :: w.render := by
  induction vs generalizing v with
  | nil => simp [renderItems]
  | cons w vs ih => simp only [renderItems, ih, List.flatMap_cons, List.cons_append]

/-- A list goes on with a comma or ends, and so does an object. -/
theorem closed_append {α : Type} (f : α → List Char) {c : Char} (hc : c = ']' ∨ c = '}')
    (as : List α) (rest : List Char) : Closed ((as.flatMap fun a => ',' :: f a) ++ c :: rest) := by
  rintro d hd
  cases as with
  | nil =>
    obtain rfl := Option.some.inj hd
    exact .inr hc
  | cons a as =>
    obtain rfl := Option.some.inj hd
    exact .inl rfl

section Elements

variable {α : Type} {item : Reader α} {first : Bool} {text next more rest : List Char} {a : α}
  {as : List α}

theorem readElements_of_end (h : nextElement? first text = .ok none) :
    readElements item first text = .ok ([], text) := by
  rw [readElements]
  split
  · next h' => cases h'.symm.trans h
  · rfl
  · next h' => cases h'.symm.trans h

theorem readElements_of_next (hnext : nextElement? first text = .ok (some next))
    (hread : item.read next = .ok (a, more))
    (hrest : readElements item false more = .ok (as, rest)) :
    readElements item first text = .ok (a :: as, rest) := by
  rw [readElements]
  split
  · next h => cases h.symm.trans hnext
  · next h => cases h.symm.trans hnext
  · next next' h =>
    obtain rfl := Option.some.inj (Except.ok.inj (h.symm.trans hnext))
    split
    · next h => cases h.symm.trans hread
    · next a' more' h =>
      obtain ⟨rfl, rfl⟩ := Prod.mk.inj (Except.ok.inj (h.symm.trans hread))
      rw [hrest]

end Elements

theorem nextElement?_render (v : Json) (rest : List Char) :
    nextElement? true (v.render ++ rest) = .ok (some (v.render ++ rest)) := by
  obtain ⟨c, more, hrender, -, hend, -⟩ := exists_render_eq v
  unfold nextElement?
  rw [dropSpace_render, hrender, List.cons_append]
  split
  · next h => cases h
  · next h => exact absurd (List.cons.inj h).1 hend
  · next h => rw [if_pos rfl, h]

theorem nextElement?_comma (v : Json) (rest : List Char) :
    nextElement? false (',' :: v.render ++ rest) = .ok (some (v.render ++ rest)) := by
  obtain ⟨c, more, hrender, -, hend, -⟩ := exists_render_eq v
  have hcomma : dropSpace (',' :: v.render ++ rest) = ',' :: (v.render ++ rest) := rfl
  unfold nextElement?
  rw [hcomma]
  split
  · next h => cases h
  · next h => exact absurd (List.cons.inj h).1 (by decide)
  · next h =>
    obtain ⟨rfl, rfl⟩ := List.cons.inj h
    rw [if_neg Bool.false_ne_true, if_pos rfl, dropSpace_render, hrender, List.cons_append]
    split
    · next h => cases h
    · next h => exact absurd (List.cons.inj h).1 hend
    · next h => rw [h]

variable {α : Type} [Codec α] [Lawful α]

/-- Behind the first element, the others are read one by one. -/
theorem readElements_render (as : List α) (rest : List Char) :
    readElements (Codec.reader : Reader α) false
      ((as.flatMap fun a => ',' :: (toJson a).render) ++ ']' :: rest) = .ok (as, ']' :: rest) := by
  induction as with
  | nil => exact readElements_of_end rfl
  | cons a as ih =>
    rw [List.flatMap_cons, List.append_assoc]
    exact readElements_of_next (nextElement?_comma _ _)
      (Lawful.read_render a (closed_append _ (.inl rfl) as rest)) ih

instance : Lawful (List α) where
  read_render as rest _ := by
    have hopen : dropSpace ((toJson as).render ++ rest) =
        '[' :: (renderItems (as.map toJson) ++ ']' :: rest) := by
      rw [dropSpace_render]
      show '[' :: renderItems (as.map toJson) ++ [']'] ++ rest = _
      simp
    have hread : readElements (Codec.reader : Reader α) true
        (renderItems (as.map toJson) ++ ']' :: rest) = .ok (as, ']' :: rest) := by
      cases as with
      | nil => exact readElements_of_end rfl
      | cons a as =>
        rw [List.map_cons, renderItems_cons, List.flatMap_map, List.append_assoc]
        exact readElements_of_next (nextElement?_render _ _)
          (Lawful.read_render a (closed_append _ (.inl rfl) as rest)) (readElements_render as rest)
    have hclose : dropListEnd (']' :: rest) = .ok rest := rfl
    show readList (Codec.reader : Reader α) ((toJson as).render ++ rest) = _
    simp only [readList, hopen, hread, hclose]

end ScanRules.Json
