import ScanRules.Proofs.Json.Exact
import ScanRules.Proofs.Json.Members

/-!
# Records as they are written

What a record is taken for depends on the names and the values of the members of its object, or on
the values in its list, and on nothing else in its text.

- `Json.fillMember`, `Json.fill`: the draft that members lead to.
- `Json.fillValues`: the draft that the values of a list lead to.
- `Json.Shape.on`: what a value is taken for.
- `Json.Reads.record`: reading a record follows this function.
-/

namespace ScanRules.Json

open Fault

variable {D α : Type} {fields : List (Field D)}

/-- The draft behind a member, if the member may be there. -/
def fillMember (fields : List (Field D)) (d : D) (m : String × Written) : Option D :=
  match fields.find? (·.name = m.1) with
  | none => some d
  | some field => if field.given d then none else (field.value.on m.2).map (· d)

/-- The draft behind members. -/
def fill (fields : List (Field D)) (d : D) (ms : List (String × Written)) : Option D :=
  ms.foldlM (fillMember fields) d

/-- The draft behind the values of a list. Values may be missing at the end. -/
def fillValues : List (Field D) → D → List Written → Option D
  | [], d, [] => some d
  | [], _, _ :: _ => none
  | field :: fields, d, [] => if field.optional then fillValues fields d [] else none
  | field :: fields, d, v :: vs => (field.value.on v).bind fun set => fillValues fields (set d) vs

/-- The name and the value of a member. -/
def nameValue (m : Key × Padded Written) : String × Written := (m.1.name, m.2.value)

/-- What a value is taken for as a record. -/
def Shape.on (s : Shape D α) : Written → Option α
  | .object _ members =>
    (fill s.fields s.start (members.map nameValue)).bind fun d => (s.finish d).toOption
  | .list _ items =>
    (fillValues s.fields s.start (items.map (·.value))).bind fun d => (s.finish d).toOption
  | _ => none

variable {first : Bool} {d : D} {text next rest : List Char}

/-! ## Members -/

theorem readText_key (k : Key) (rest : List Char) :
    readText (quoted k.pieces ++ rest) = .ok (k.name.toList, rest) := by
  have hread := readText_quoted k.pieces rest
  rw [k.decodes] at hread
  cases hr : readText (quoted k.pieces ++ rest) with
  | error f => rw [hr] at hread; cases hread
  | ok p =>
    rw [hr] at hread
    exact congrArg Except.ok (Option.some.inj hread)

theorem toOption_readMember_of_find {key : List Char} {field : Field D} {after : List Char}
    (hkey : readText text = .ok (key, next))
    (hfind : fields.find? (·.name.toList = key) = some field) (hcolon : dropColon next = .ok after) :
    (readMember fields d text).toOption = if field.given d then none else
      (field.value.read after).toOption.map fun p => (p.1 d, p.2) := by
  simp only [readMember, hkey, hfind, hcolon]
  split
  · rfl
  · cases field.value.read after <;> rfl

theorem toOption_readMember (hexact : ∀ f ∈ fields, Exact f.value) (d : D) (k : Key) (s : Space)
    (v : Written) (hrest : Follows rest) :
    (readMember fields d (quoted k.pieces ++ (k.after.1 ++ ':' ::
      (s.1 ++ (v.chars ++ rest))))).toOption = (fillMember fields d (k.name, v)).map (·, rest) := by
  have hkey := readText_key k (k.after.1 ++ ':' :: (s.1 ++ (v.chars ++ rest)))
  have hcolon : dropColon (k.after.1 ++ ':' :: (s.1 ++ (v.chars ++ rest))) =
      .ok (s.1 ++ (v.chars ++ rest)) := by
    rw [dropColon, dropSpace_append_cons _ rfl]
    rfl
  have hname : (fields.find? (·.name.toList = k.name.toList)) = fields.find? (·.name = k.name) := by
    simp only [String.toList_inj]
  cases hfind : fields.find? (·.name = k.name) with
  | none =>
    have hskip := skip_chars v s hrest
    simp only [readMember, fillMember, hkey, hname, hfind, hcolon, hskip]
    rfl
  | some field =>
    have hread := hexact field (List.mem_of_find?_eq_some hfind) s v hrest
    rw [toOption_readMember_of_find hkey (hname.trans hfind) hcolon, hread, fillMember, hfind]
    simp only
    split
    · rfl
    · cases field.value.on v <;> rfl

theorem nextKey?_close (first : Bool) (s : Space) (rest : List Char) :
    nextKey? first (s.1 ++ '}' :: rest) = .ok none := by
  rw [nextKey?, dropSpace_append_cons s rfl]
  rfl

/-- Behind a comma, if there are members in front, the next key is found. -/
theorem nextKey?_chars (first : Bool) (s before : Space) (rest : List Char) :
    nextKey? first (s.1 ++ ((if first then [] else [',']) ++ (before.1 ++ '"' :: rest))) =
      .ok (some rest) := by
  have hspace := dropSpace_append_cons before (rfl : isSpace '"' = false) rest
  unfold nextKey?
  cases first with
  | true =>
    rw [if_pos rfl, List.nil_append, dropSpace_append, hspace]
    rfl
  | false =>
    rw [if_neg Bool.false_ne_true, List.singleton_append, dropSpace_append_cons s rfl]
    split
    · next h => cases h
    · next h => exact absurd (List.cons.inj h).1 (by decide)
    · next h =>
      obtain ⟨rfl, rfl⟩ := List.cons.inj h
      rw [if_neg Bool.false_ne_true, if_pos rfl, hspace]
      rfl

theorem toOption_readMembers_of_next (h : nextKey? first text = .ok (some next)) :
    (readMembers fields first d text).toOption = (readMember fields d next).toOption.bind fun p =>
      (readMembers fields false p.1 p.2).toOption := by
  rw [readMembers]
  split
  · next h' => cases h'.symm.trans h
  · next h' => cases h'.symm.trans h
  · next next' h' =>
    obtain rfl := Option.some.inj (Except.ok.inj (h'.symm.trans h))
    split
    · next hr => rw [hr]; rfl
    · next e more hr => rw [hr]; rfl

/-- Members up to the end of an object, and what is behind the object. -/
def readObject (fields : List (Field D)) (first : Bool) (d : D) (text : List Char) :
    Option (D × List Char) :=
  (readMembers fields first d text).toOption.bind fun p =>
    (dropObjectEnd p.2).toOption.map (p.1, ·)

theorem readObject_of_next (h : nextKey? first text = .ok (some next)) :
    readObject fields first d text = (readMember fields d next).toOption.bind fun p =>
      readObject fields false p.1 p.2 := by
  rw [readObject, toOption_readMembers_of_next h]
  cases (readMember fields d next).toOption <;> rfl

/-- The members of an object fill the draft one by one, by induction on them. -/
theorem readObject_chars (hexact : ∀ f ∈ fields, Exact f.value)
    (members : List (Key × Padded Written)) (first : Bool) (d : D) (s : Space)
    (rest : List Char) :
    readObject fields first d (s.1 ++ (Written.membersChars first members ++ '}' :: rest)) =
      (fill fields d (members.map nameValue)).map (·, rest) := by
  induction members generalizing first d s with
  | nil =>
    have hclose : dropObjectEnd (s.1 ++ '}' :: rest) = .ok rest := by
      rw [dropObjectEnd, dropSpace_append_cons s rfl]
      rfl
    have hend : readMembers fields first d (s.1 ++ '}' :: rest) = .ok (d, s.1 ++ '}' :: rest) :=
      readMembers_of_end (nextKey?_close first s rest)
    show (readMembers fields first d (s.1 ++ '}' :: rest)).toOption.bind _ = _
    rw [hend]
    show (dropObjectEnd (s.1 ++ '}' :: rest)).toOption.map _ = _
    rw [hclose]
    rfl
  | cons m members ih =>
    obtain ⟨k, w⟩ := m
    have hfollows := (follows_membersChars members rest).space w.after
    have hread := toOption_readMember hexact d k w.before w.value hfollows
    rw [Written.membersChars_cons, readObject_of_next (nextKey?_chars first s k.before _), hread,
      List.map_cons, fill, List.foldlM_cons]
    show _ = ((fillMember fields d (k.name, w.value)).bind fun e =>
      fill fields e (members.map nameValue)).map _
    cases fillMember fields d (k.name, w.value) with
    | none => rfl
    | some e => exact ih false e w.after

/-! ## Lists of values -/

theorem toOption_dropListEnd_of_ne (h : (dropSpace text).head? ≠ some ']') :
    (dropListEnd text).toOption = none := by
  unfold dropListEnd
  split
  · rfl
  · next heq =>
    rw [heq] at h
    exact absurd rfl h
  · split <;> rfl
  · rfl

/-- An item is not the end of its list. -/
theorem head?_dropSpace_itemsChars (first : Bool) (s : Space) (w : Padded Written)
    (items : List (Padded Written)) (rest : List Char) :
    (dropSpace (s.1 ++ (Written.itemsChars first (w :: items) ++ rest))).head? ≠ some ']' := by
  rw [Written.itemsChars_cons, dropSpace_append]
  cases first with
  | false => exact fun h => absurd (Option.some.inj h) (by decide)
  | true =>
    obtain ⟨c, more, hw, -, hclose, -⟩ := w.value.exists_chars_eq
    rw [if_pos rfl, List.nil_append, dropSpace_space_chars, hw]
    exact fun h => hclose (Option.some.inj h)

/-- The values of fields up to the end of a list, and what is behind the list. -/
def readTuple (expected : String) (index : Nat) (first : Bool) (fields : List (Field D)) (d : D)
    (text : List Char) : Option (D × List Char) :=
  (readValues expected index first fields d text).toOption.bind fun p =>
    (dropListEnd p.2).toOption.map (p.1, ·)

theorem readTuple_of_next {expected : String} {index : Nat} {field : Field D}
    (h : nextElement? first text = .ok (some next)) :
    readTuple expected index first (field :: fields) d text =
      (field.value.read next).toOption.bind fun p =>
        readTuple expected (index + 1) false fields (p.1 d) p.2 := by
  rw [readTuple, readValues, h]
  simp only
  cases field.value.read next <;> rfl

/-- The values in a list fill the fields in their order, by induction on the fields. -/
theorem readTuple_chars (expected : String) (index : Nat) (first : Bool)
    (hexact : ∀ f ∈ fields, Exact f.value) (d : D) (items : List (Padded Written)) (s : Space)
    (rest : List Char) :
    readTuple expected index first fields d
        (s.1 ++ (Written.itemsChars first items ++ ']' :: rest)) =
      (fillValues fields d (items.map (·.value))).map (·, rest) := by
  induction fields generalizing index first d items s with
  | nil =>
    show (dropListEnd (s.1 ++ (Written.itemsChars first items ++ ']' :: rest))).toOption.map _ = _
    cases items with
    | nil =>
      have hclose : dropListEnd (s.1 ++ ']' :: rest) = .ok rest := by
        rw [dropListEnd, dropSpace_append_cons s rfl]
        rfl
      show (dropListEnd (s.1 ++ ']' :: rest)).toOption.map _ = _
      rw [hclose]
      rfl
    | cons w items =>
      rw [toOption_dropListEnd_of_ne (head?_dropSpace_itemsChars first s w items _)]
      rfl
  | cons field fields ih =>
    obtain ⟨hfield, hfields⟩ := List.forall_mem_cons.1 hexact
    cases items with
    | nil =>
      have hmore := ih (index + 1) first hfields d [] s
      rw [readTuple, readValues, Written.itemsChars, List.nil_append, nextElement?_close,
        List.map_nil, fillValues]
      simp only
      split
      · exact hmore
      · rfl
    | cons w items =>
      have hfollows := (follows_itemsChars items rest).space w.after
      rw [Written.itemsChars_cons,
        readTuple_of_next (nextElement?_chars first s w.before w.value _),
        hfield.bare w.value hfollows, List.map_cons, fillValues]
      cases field.value.on w.value with
      | none => rfl
      | some set => exact ih (index + 1) false hfields (set d) items w.after

/-! ## Records -/

section Finish

variable {s : Shape D α}

theorem toOption_finishRecord (close : Char) (dropEnd : List Char → Except Fault (List Char))
    (d : D) (text : List Char) :
    (finishRecord s close dropEnd d text).toOption =
      ((dropEnd text).toOption.map (d, ·)).bind fun p => (s.finish p.1).toOption.map (·, p.2) := by
  unfold finishRecord
  cases dropEnd text with
  | error f => cases s.finish d <;> rfl
  | ok rest => cases hd : s.finish d <;> simp [hd, Except.toOption]

theorem toOption_readRecord_object (h : dropSpace text = '{' :: rest) :
    (readRecord s text).toOption = (readObject s.fields true s.start rest).bind fun p =>
      (s.finish p.1).toOption.map (·, p.2) := by
  simp only [readRecord, readObject, h]
  cases readMembers s.fields true s.start rest with
  | error f => rfl
  | ok p => exact toOption_finishRecord '}' dropObjectEnd p.1 p.2

theorem toOption_readRecord_list (h : dropSpace text = '[' :: rest) :
    (readRecord s text).toOption =
      (readTuple s.expectedLength 0 true s.fields s.start rest).bind fun p =>
        (s.finish p.1).toOption.map (·, p.2) := by
  simp only [readRecord, readTuple, h]
  cases readValues s.expectedLength 0 true s.fields s.start rest with
  | error f => rfl
  | ok p => exact toOption_finishRecord ']' dropListEnd p.1 p.2

theorem toOption_readRecord_of_ne (hobject : (dropSpace text).head? ≠ some '{')
    (hlist : (dropSpace text).head? ≠ some '[') : (readRecord s text).toOption = none := by
  unfold readRecord
  split
  · next heq =>
    rw [heq] at hobject
    exact absurd rfl hobject
  · next heq =>
    rw [heq] at hlist
    exact absurd rfl hlist
  · rfl

end Finish

theorem Reads.record {s : Shape D α} (hexact : ∀ f ∈ s.fields, Exact f.value) :
    Reads (.record s) s.on := by
  intro before w rest hrest
  have hspace := dropSpace_space_chars before w rest
  show (readRecord s (before.1 ++ (w.chars ++ rest))).toOption = _
  by_cases hobject : ∃ inside members, w = .object inside members
  · obtain ⟨inside, members, rfl⟩ := hobject
    have hopen : (Written.object inside members).chars ++ rest =
        '{' :: (inside.1 ++ (Written.membersChars true members ++ '}' :: rest)) := by
      simp [Written.chars]
    rw [toOption_readRecord_object (hspace.trans hopen), readObject_chars hexact, Shape.on]
    cases fill s.fields s.start (members.map nameValue) <;> rfl
  by_cases hlist : ∃ inside items, w = .list inside items
  · obtain ⟨inside, items, rfl⟩ := hlist
    have hopen : (Written.list inside items).chars ++ rest =
        '[' :: (inside.1 ++ (Written.itemsChars true items ++ ']' :: rest)) := by
      simp [Written.chars]
    rw [toOption_readRecord_list (hspace.trans hopen), readTuple_chars _ _ _ hexact, Shape.on]
    cases fillValues s.fields s.start (items.map (·.value)) <;> rfl
  have hon : s.on w = none := by
    cases w with
    | object inside members => exact absurd ⟨inside, members, rfl⟩ hobject
    | list inside items => exact absurd ⟨inside, items, rfl⟩ hlist
    | _ => rfl
  have hread : (readRecord s (before.1 ++ (w.chars ++ rest))).toOption = none := by
    apply toOption_readRecord_of_ne <;> rw [hspace]
    · exact head?_chars_ne_object rest fun inside members h => hobject ⟨inside, members, h⟩
    · exact head?_chars_ne_list rest fun inside items h => hlist ⟨inside, items, h⟩
  rw [hread, hon]
  rfl

end ScanRules.Json
