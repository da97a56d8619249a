import ScanRules.Proofs.Json.Lawful

/-!
# Reading back records

A record is written as the members of its fields, some of which are left out. Each member that is
there fills the field of its name.

- `Json.Fills`: members that fill fields of a draft which have not been given.
- `Json.readMembers_of_fills`: such members are read one by one.
- `Json.readRecord_of_fills`: so an object of such members is read as the record of the full draft.
- `Json.given`, `Json.Fills.memberUnless`: a member that is left out changes nothing.
-/

namespace ScanRules.Json

open Fault

variable {D α : Type} {fields : List (Field D)}

/-- Reading these members one after the other leads from one draft to another. -/
inductive Fills (fields : List (Field D)) : D → List (String × Json) → D → Prop
  | nil (d : D) : Fills fields d [] d
  | cons {d e : D} {name : String} {v : Json} {members : List (String × Json)} {field : Field D}
      {set : D → D} : fields.find? (·.name = name) = some field →
    field.given d = false →
    (∀ {rest : List Char}, Closed rest → field.value.read (v.render ++ rest) = .ok (set, rest)) →
    Fills fields (set d) members e → Fills fields d ((name, v) :: members) e

theorem Fills.append {d e d' : D} {members more : List (String × Json)}
    (h : Fills fields d members e) (h' : Fills fields e more d') :
    Fills fields d (members ++ more) d' := by
  induction h with
  | nil => exact h'
  | cons hfind hgiven hread _ ih => exact .cons hfind hgiven hread (ih h')

/-- A member of an object as it is written. -/
def memberText (m : String × Json) : List Char := quoteText m.1.toList ++ ':' :: m.2.render

theorem renderMembers_cons (m : String × Json) (ms : List (String × Json)) :
    renderMembers (m :: ms) = memberText m ++ ms.flatMap fun m => ',' :: memberText m := by
  induction ms generalizing m with
  | nil => simp [renderMembers, memberText]
  | cons w ms ih => simp [renderMembers, ih, memberText]

section Members

variable {first : Bool} {d d' e : D} {text next more rest : List Char}

theorem readMembers_of_end (h : nextKey? first text = .ok none) :
    readMembers fields first d text = .ok (d, text) := by
  rw [readMembers]
  split
  · next h' => cases h'.symm.trans h
  · rfl
  · next h' => cases h'.symm.trans h

theorem readMembers_of_next (hnext : nextKey? first text = .ok (some next))
    (hread : readMember fields d next = .ok (d', more))
    (hrest : readMembers fields false d' more = .ok (e, rest)) :
    readMembers fields first d text = .ok (e, rest) := by
  rw [readMembers]
  split
  · next h => cases h.symm.trans hnext
  · next h => cases h.symm.trans hnext
  · next next' h =>
    obtain rfl := Option.some.inj (Except.ok.inj (h.symm.trans hnext))
    split
    · next h => cases h.symm.trans hread
    · next h =>
      obtain ⟨rfl, rfl⟩ := Prod.mk.inj (Except.ok.inj (h.symm.trans hread))
      exact hrest

/-- A member is read behind the quote of its key. -/
theorem readMember_memberText {name : String} {v : Json} {field : Field D} {set : D → D}
    (hfind : fields.find? (·.name = name) = some field)
    (hgiven : field.given d = false)
    (hread : field.value.read (v.render ++ rest) = .ok (set, rest)) :
    readMember fields d ((memberText (name, v)).tail ++ rest) = .ok (set d, rest) := by
  have htext : (memberText (name, v)).tail ++ rest =
      name.toList.flatMap escapeChar ++ '"' :: (':' :: (v.render ++ rest)) := by
    simp [memberText, quoteText]
  have hfind' : fields.find? (·.name.toList = name.toList) = some field := by
    simpa only [String.toList_inj] using hfind
  have hcolon : dropColon (':' :: (v.render ++ rest)) = .ok (v.render ++ rest) := rfl
  simp only [readMember, htext, readText_escaped, hfind', hgiven, Bool.false_eq_true, if_false,
    hcolon, hread]

/-- Behind the first member, the others are read one by one, by induction on what they fill. -/
theorem readMembers_of_fills {members : List (String × Json)} (h : Fills fields d members e)
    (rest : List Char) :
    readMembers fields false d ((members.flatMap fun m => ',' :: memberText m) ++ '}' :: rest) =
      .ok (e, '}' :: rest) := by
  induction h with
  | nil => exact readMembers_of_end rfl
  | @cons d e name v members field set hfind hgiven hread _ ih =>
    rw [List.flatMap_cons, List.append_assoc]
    exact readMembers_of_next rfl (readMember_memberText hfind hgiven
      (hread (closed_append memberText (.inr rfl) members rest))) ih

end Members

/-- An object whose members fill a draft is read as the record that is made of the draft. -/
theorem readRecord_of_fills {s : Shape D α} {members : List (String × Json)} {d : D} {a : α}
    (h : Fills s.fields s.start members d) (ha : s.finish d = .ok a) (rest : List Char) :
    readRecord s ((Json.object members).render ++ rest) = .ok (a, rest) := by
  have hopen : dropSpace ((Json.object members).render ++ rest) =
      '{' :: (renderMembers members ++ '}' :: rest) := by
    rw [dropSpace_render, render]
    simp
  have hread : readMembers s.fields true s.start (renderMembers members ++ '}' :: rest) =
      .ok (d, '}' :: rest) := by
    cases h with
    | nil => exact readMembers_of_end rfl
    | cons hfind hgiven hread hrest =>
      rw [renderMembers_cons, List.append_assoc]
      exact readMembers_of_next rfl (readMember_memberText hfind hgiven
        (hread (closed_append memberText (.inr rfl) _ rest))) (readMembers_of_fills hrest rest)
  have hclose : dropObjectEnd ('}' :: rest) = .ok rest := rfl
  simp only [readRecord, hopen, hread, finishRecord, ha, hclose]

variable {β : Type} [Codec β] [Lawful β]

/-- The member of a field that has not been given fills it. Here `draft` is the draft, whatever it
has in this field. -/
theorem Fills.member (draft : Option β → D) {name : String} {optional : Bool} {get : D → Option β}
    {set : β → D → D}
    (hfind : fields.find? (·.name = name) = some (.of name optional get set Codec.reader))
    (hget : get (draft none) = none) {b : β} (hset : set b (draft none) = draft (some b)) :
    Fills fields (draft none) [(name, toJson b)] (draft (some b)) := by
  rw [← hset]
  refine .cons hfind ?_ (fun hrest => Reader.read_map_of set (Lawful.read_render b hrest)) (.nil _)
  show (get (draft none)).isSome = false
  rw [hget]
  rfl

/-- The value of a field, unless it is left out. -/
def given (omitted : Bool) (b : β) : Option β := if omitted then none else some b

omit [Codec β] [Lawful β] in
/-- A value that is left out only if it is the one that takes its place is not lost. -/
theorem getD_given {omitted : Bool} {b default : β} (h : omitted → b = default) :
    (given omitted b).getD default = b := by
  cases omitted with
  | true => exact (h rfl).symm
  | false => rfl

/-- A member that is left out leaves its field as it is. -/
theorem Fills.memberUnless (draft : Option β → D) {name : String} {optional : Bool}
    {get : D → Option β} {set : β → D → D}
    (hfind : fields.find? (·.name = name) = some (.of name optional get set Codec.reader))
    (hget : get (draft none) = none) {b : β} (hset : set b (draft none) = draft (some b))
    (omitted : Bool) :
    Fills fields (draft none) (RuleSpec.memberUnless omitted name b) (draft (given omitted b)) := by
  cases omitted with
  | true => exact .nil _
  | false => exact .member draft hfind hget hset

end ScanRules.Json
