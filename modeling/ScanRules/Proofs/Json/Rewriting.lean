import Mathlib.Data.List.Duplicate
import Mathlib.Data.List.Pairwise
import ScanRules.Proofs.Json.Records

/-!
# Other ways to write a record

The order of members does not matter, nor do members of other names or optional members with the
value that they have when they are missing. A list of the values of the first fields stands for an
object with these values.

- `Json.Rewritten`: ways of writing that mean the same.
- `Json.Field.Apart`, `Json.Shape.Orderly`: fields that do not get in each other's way.
- `Json.Shape.on_eq_of_rewritten`: a record is read alike however it is written.
- `Json.Shape.on_eq_none_of_duplicate`, `Json.Shape.on_eq_none_of_unreadable`,
  `Json.Shape.on_eq_none_of_missing`: objects that are no record.
-/

namespace ScanRules.Json

/-- Ways of writing a record with these field names that mean the same. `IsDefault` gives the values
that members have when they are missing, `Inside` what means the same as the value of a field. -/
inductive Rewritten (names : List String) (IsDefault : String → Written → Prop)
    (Inside : Written → Written → Prop) : Written → Written → Prop
  | refl (w : Written) : Rewritten names IsDefault Inside w w
  | symm {v w : Written} : Rewritten names IsDefault Inside v w →
    Rewritten names IsDefault Inside w v
  | trans {u v w : Written} : Rewritten names IsDefault Inside u v →
    Rewritten names IsDefault Inside v w → Rewritten names IsDefault Inside u w
  /-- The members are in another order. -/
  | permuted {s s' : Space} {ms ms' : List (Key × Padded Written)} :
    (ms.map nameValue).Perm (ms'.map nameValue) →
    Rewritten names IsDefault Inside (.object s ms) (.object s' ms')
  /-- There is a member of another name. -/
  | unknown {s s' : Space} {k : Key} {w : Padded Written} {ms : List (Key × Padded Written)} :
    k.name ∉ names → Rewritten names IsDefault Inside (.object s ms) (.object s' ((k, w) :: ms))
  /-- A missing member is there with the value that it has when it is missing. -/
  | default {s s' : Space} {k : Key} {w : Padded Written} {ms : List (Key × Padded Written)} :
    IsDefault k.name w.value → k.name ∉ ms.map (·.1.name) →
    Rewritten names IsDefault Inside (.object s ms) (.object s' ((k, w) :: ms))
  /-- The values of the first fields are in a list. -/
  | values {s s' : Space} {ms : List (Key × Padded Written)} {items : List (Padded Written)} :
    ms.map (·.1.name) <+: names → items.map (·.value) = ms.map (·.2.value) →
    Rewritten names IsDefault Inside (.object s ms) (.list s' items)
  /-- The value of a member is written in another way. -/
  | member {s s' : Space} {k k' : Key} {w w' : Padded Written}
    {pre post : List (Key × Padded Written)} : k.name = k'.name → Inside w.value w'.value →
    Rewritten names IsDefault Inside (.object s (pre ++ (k, w) :: post))
      (.object s' (pre ++ (k', w') :: post))
  /-- A value in a list is written in another way. -/
  | item {s s' : Space} {w w' : Padded Written} {pre post : List (Padded Written)} :
    Inside w.value w'.value →
    Rewritten names IsDefault Inside (.list s (pre ++ w :: post)) (.list s' (pre ++ w' :: post))

variable {D α : Type}

/-- Neither field changes whether the other is given, and it does not matter which is set first. -/
structure Field.Apart (f g : Field D) : Prop where
  given_left : ∀ {w : Written} {set : D → D}, g.value.on w = some set → ∀ d,
    f.given (set d) = f.given d
  given_right : ∀ {w : Written} {set : D → D}, f.value.on w = some set → ∀ d,
    g.given (set d) = g.given d
  comm : ∀ {v w : Written} {set set' : D → D}, f.value.on v = some set →
    g.value.on w = some set' → ∀ d, set (set' d) = set' (set d)

theorem Field.Apart.symm {f g : Field D} (h : f.Apart g) : g.Apart f :=
  ⟨h.given_right, h.given_left, fun hset hset' d => (h.comm hset' hset d).symm⟩

/-- The laws of the fields of a record. -/
structure Shape.Orderly (s : Shape D α) (IsDefault : String → Written → Prop)
    (Inside : Written → Written → Prop) : Prop where
  exact : ∀ f ∈ s.fields, Exact f.value
  nodup : (s.fields.map (·.name)).Nodup
  apart : s.fields.Pairwise Field.Apart
  start : ∀ f ∈ s.fields, f.given s.start = false
  given : ∀ f ∈ s.fields, ∀ {w : Written} {set : D → D}, f.value.on w = some set →
    ∀ d, f.given (set d)
  required : ∀ f ∈ s.fields, f.optional = false → ∀ d, f.given d = false →
    (s.finish d).toOption = none
  default : ∀ f ∈ s.fields, ∀ {w : Written}, IsDefault f.name w → ∀ d, f.given d = false →
    ∃ set, f.value.on w = some set ∧ s.finish (set d) = s.finish d
  inside : ∀ f ∈ s.fields, ∀ {v w : Written}, Inside v w → f.value.on v = f.value.on w

namespace Shape

variable {s : Shape D α} {IsDefault : String → Written → Prop} {Inside : Written → Written → Prop}
  {f g : Field D} {d e : D} {name : String} {v : Written} {ms ms' : List (String × Written)}

theorem Orderly.apart_of_ne (h : s.Orderly IsDefault Inside) (hf : f ∈ s.fields)
    (hg : g ∈ s.fields) (hne : f ≠ g) : f.Apart g := by
  have : Std.Symm (@Field.Apart D) := ⟨fun _ _ h => h.symm⟩
  exact h.apart.forall hf hg hne

/-! ## One member -/

theorem find?_eq_some (h : s.Orderly IsDefault Inside) (hf : f ∈ s.fields) :
    s.fields.find? (·.name = f.name) = some f := by
  cases hfind : s.fields.find? (·.name = f.name) with
  | none => exact absurd (decide_eq_true rfl) (List.find?_eq_none.1 hfind f hf)
  | some g =>
    have hname : g.name = f.name := by simpa using List.find?_some hfind
    have hg := List.mem_of_find?_eq_some hfind
    exact congrArg some (List.inj_on_of_nodup_map h.nodup hg hf hname)

theorem fillMember_of_mem (h : s.Orderly IsDefault Inside) (hf : f ∈ s.fields) (d : D)
    (v : Written) : fillMember s.fields d (f.name, v) =
      if f.given d then none else (f.value.on v).map (· d) := by
  rw [fillMember, find?_eq_some h hf]

theorem fillMember_of_not_mem (hname : name ∉ s.fields.map (·.name)) (d : D) (v : Written) :
    fillMember s.fields d (name, v) = some d := by
  have hfind : s.fields.find? (·.name = name) = none := by
    rw [List.find?_eq_none]
    intro f hf hnamed
    exact hname (List.mem_map.2 ⟨f, hf, of_decide_eq_true hnamed⟩)
  rw [fillMember, hfind]

theorem fillMember_eq_some_iff (h : s.Orderly IsDefault Inside) (hf : f ∈ s.fields) :
    fillMember s.fields d (f.name, v) = some e ↔
      f.given d = false ∧ ∃ set, f.value.on v = some set ∧ set d = e := by
  rw [fillMember_of_mem h hf]
  cases hgiven : f.given d with
  | true => simp
  | false => simp

/-- A member fills its field. -/
theorem given_of_fillMember_self (h : s.Orderly IsDefault Inside) (hf : f ∈ s.fields)
    (hfill : fillMember s.fields d (f.name, v) = some e) : f.given e := by
  obtain ⟨-, set, hset, rfl⟩ := (fillMember_eq_some_iff h hf).1 hfill
  exact h.given f hf hset d

/-- A member leaves the fields of other names as they are. -/
theorem given_of_fillMember_ne (h : s.Orderly IsDefault Inside) (hf : f ∈ s.fields)
    (hne : name ≠ f.name) (hfill : fillMember s.fields d (name, v) = some e) :
    f.given e = f.given d := by
  by_cases hname : name ∈ s.fields.map (·.name)
  · obtain ⟨g, hg, rfl⟩ := List.mem_map.1 hname
    obtain ⟨-, set, hset, rfl⟩ := (fillMember_eq_some_iff h hg).1 hfill
    have happart := h.apart_of_ne hf hg (fun heq => hne (heq ▸ rfl))
    exact happart.given_left hset d
  · rw [fillMember_of_not_mem hname] at hfill
    obtain rfl := Option.some.inj hfill
    rfl

/-- Two members may change places. -/
theorem fillMember_comm (h : s.Orderly IsDefault Inside) (d : D) (m m' : String × Written) :
    (fillMember s.fields d m).bind (fillMember s.fields · m') =
      (fillMember s.fields d m').bind (fillMember s.fields · m) := by
  obtain ⟨name, v⟩ := m
  obtain ⟨name', v'⟩ := m'
  by_cases hname : name ∈ s.fields.map (·.name)
  swap
  · simp only [fillMember_of_not_mem hname, Option.bind_some, Option.bind_fun_some]
  by_cases hname' : name' ∈ s.fields.map (·.name)
  swap
  · simp only [fillMember_of_not_mem hname', Option.bind_some, Option.bind_fun_some]
  obtain ⟨f, hf, rfl⟩ := List.mem_map.1 hname
  obtain ⟨g, hg, rfl⟩ := List.mem_map.1 hname'
  by_cases heq : f = g
  · -- whichever comes first, the other finds the field filled
    subst heq
    have hnone : ∀ v v', (fillMember s.fields d (f.name, v)).bind
        (fillMember s.fields · (f.name, v')) = none := by
      intro v v'
      rw [Option.bind_eq_none_iff]
      intro e he
      rw [fillMember_of_mem h hf, if_pos (given_of_fillMember_self h hf he)]
    rw [hnone, hnone]
  · have happart := h.apart_of_ne hf hg heq
    ext e
    simp only [Option.bind_eq_some_iff, fillMember_eq_some_iff h hf, fillMember_eq_some_iff h hg]
    constructor
    · rintro ⟨-, ⟨hd, set, hset, rfl⟩, hd', set', hset', rfl⟩
      rw [happart.given_right hset] at hd'
      exact ⟨_, ⟨hd', set', hset', rfl⟩, (happart.given_left hset' d).trans hd, set, hset,
        happart.comm hset hset' d⟩
    · rintro ⟨-, ⟨hd', set', hset', rfl⟩, hd, set, hset, rfl⟩
      rw [happart.given_left hset'] at hd
      exact ⟨_, ⟨hd, set, hset, rfl⟩, (happart.given_right hset d).trans hd', set', hset',
        (happart.comm hset hset' d).symm⟩

/-! ## All members -/

theorem fill_cons (fields : List (Field D)) (d : D) (m : String × Written)
    (ms : List (String × Written)) :
    fill fields d (m :: ms) = (fillMember fields d m).bind (fill fields · ms) :=
  List.foldlM_cons

theorem fill_append (fields : List (Field D)) (d : D) (ms ms' : List (String × Written)) :
    fill fields d (ms ++ ms') = (fill fields d ms).bind (fill fields · ms') :=
  List.foldlM_append

theorem fill_singleton (fields : List (Field D)) (d : D) (m : String × Written) :
    fill fields d [m] = fillMember fields d m := by
  rw [fill_cons]
  exact Option.bind_fun_some _

/-- The order of members does not matter. -/
theorem fill_perm (h : s.Orderly IsDefault Inside) (hperm : ms.Perm ms') (d : D) :
    fill s.fields d ms = fill s.fields d ms' := by
  induction hperm generalizing d with
  | nil => rfl
  | cons m _ ih => simp only [fill_cons, ih]
  | swap m m' ms =>
    simp only [fill_cons]
    rw [← Option.bind_assoc, ← Option.bind_assoc, fillMember_comm h]
  | trans _ _ ih ih' => exact (ih d).trans (ih' d)

/-- Members leave the fields of other names as they are. -/
theorem given_of_fill (h : s.Orderly IsDefault Inside) (hf : f ∈ s.fields)
    (hname : f.name ∉ ms.map (·.1)) (hfill : fill s.fields d ms = some e) :
    f.given e = f.given d := by
  induction ms generalizing d with
  | nil =>
    obtain rfl := Option.some.inj hfill
    rfl
  | cons m ms ih =>
    rw [List.map_cons, List.mem_cons, not_or] at hname
    rw [fill_cons, Option.bind_eq_some_iff] at hfill
    obtain ⟨d', hmember, hrest⟩ := hfill
    rw [ih hname.2 hrest]
    exact given_of_fillMember_ne h hf (Ne.symm hname.1) hmember

/-- A field that is given stays given, and has no second member. -/
theorem fill_eq_none_of_given (h : s.Orderly IsDefault Inside) (hf : f ∈ s.fields)
    (hgiven : f.given d) (hname : f.name ∈ ms.map (·.1)) : fill s.fields d ms = none := by
  induction ms generalizing d with
  | nil => cases hname
  | cons m ms ih =>
    obtain ⟨name, v⟩ := m
    rw [fill_cons, Option.bind_eq_none_iff]
    intro e he
    by_cases hne : name = f.name
    · rw [hne, fillMember_of_mem h hf, if_pos hgiven] at he
      cases he
    · rw [List.map_cons, List.mem_cons] at hname
      have hkept := given_of_fillMember_ne h hf hne he
      exact ih (hkept.trans hgiven) (hname.resolve_left (Ne.symm hne))

/-- Members with one name twice do not fill any draft. -/
theorem fill_eq_none_of_duplicate (h : s.Orderly IsDefault Inside) (hf : f ∈ s.fields)
    (hname : (ms.map (·.1)).Duplicate f.name) : fill s.fields d ms = none := by
  induction ms generalizing d with
  | nil => cases hname
  | cons m ms ih =>
    obtain ⟨name, v⟩ := m
    rw [fill_cons, Option.bind_eq_none_iff]
    intro e he
    rcases List.duplicate_cons_iff.1 hname with ⟨rfl, hmem⟩ | hrest
    · exact fill_eq_none_of_given h hf (given_of_fillMember_self h hf he) hmem
    · exact ih hrest

/-- Nor do members one of which has a value that its field does not accept. -/
theorem fill_eq_none_of_unreadable (h : s.Orderly IsDefault Inside) (hf : f ∈ s.fields)
    (hmem : (f.name, v) ∈ ms) (hv : f.value.on v = none) : fill s.fields d ms = none := by
  induction ms generalizing d with
  | nil => cases hmem
  | cons m ms ih =>
    rw [fill_cons, Option.bind_eq_none_iff]
    intro e he
    rcases List.mem_cons.1 hmem with rfl | hrest
    · obtain ⟨-, set, hset, -⟩ := (fillMember_eq_some_iff h hf).1 he
      cases hset.symm.trans hv
    · exact ih hrest

/-- The same holds of values in a list. -/
theorem fillValues_eq_none_of_unreadable {fs : List (Field D)} {vs : List Written} (hmem : v ∈ vs)
    (hv : ∀ f ∈ fs, f.value.on v = none) : fillValues fs d vs = none := by
  induction fs generalizing d vs with
  | nil =>
    obtain ⟨u, us, rfl⟩ := List.exists_cons_of_ne_nil (List.ne_nil_of_mem hmem)
    rfl
  | cons f fs ih =>
    obtain ⟨hf, hfs⟩ := List.forall_mem_cons.1 hv
    cases hmem with
    | head => rw [fillValues, hf, Option.bind_none]
    | tail u hrest =>
      rw [fillValues, Option.bind_eq_none_iff]
      exact fun set _ => ih hrest hfs

/-! ## Records -/

theorem on_eq_none_of_duplicate (h : s.Orderly IsDefault Inside) {space : Space}
    {members : List (Key × Padded Written)} (hname : name ∈ s.fields.map (·.name))
    (hdup : (members.map (·.1.name)).Duplicate name) : s.on (.object space members) = none := by
  obtain ⟨f, hf, rfl⟩ := List.mem_map.1 hname
  have hnames : (members.map nameValue).map (·.1) = members.map (·.1.name) := List.map_map
  rw [Shape.on, fill_eq_none_of_duplicate h hf (hnames ▸ hdup)]
  rfl

theorem on_eq_none_of_unreadable (h : s.Orderly IsDefault Inside) {space : Space}
    {members : List (Key × Padded Written)} {m : Key × Padded Written} (hm : m ∈ members)
    (hname : m.1.name ∈ s.fields.map (·.name))
    (hv : ∀ f ∈ s.fields, f.value.on m.2.value = none) : s.on (.object space members) = none := by
  obtain ⟨f, hf, hnamed⟩ := List.mem_map.1 hname
  have hmem : (f.name, m.2.value) ∈ members.map nameValue :=
    List.mem_map.2 ⟨m, hm, congrArg (·, m.2.value) hnamed.symm⟩
  rw [Shape.on, fill_eq_none_of_unreadable h hf hmem (hv f hf)]
  rfl

theorem on_list_eq_none_of_unreadable {space : Space} {items : List (Padded Written)}
    {w : Padded Written} (hw : w ∈ items) (hv : ∀ f ∈ s.fields, f.value.on w.value = none) :
    s.on (.list space items) = none := by
  rw [Shape.on, fillValues_eq_none_of_unreadable (List.mem_map_of_mem hw) hv]
  rfl

theorem on_eq_none_of_missing (h : s.Orderly IsDefault Inside) (hf : f ∈ s.fields)
    (hrequired : f.optional = false) {space : Space} {members : List (Key × Padded Written)}
    (hname : f.name ∉ members.map (·.1.name)) : s.on (.object space members) = none := by
  have hnames : (members.map nameValue).map (·.1) = members.map (·.1.name) := List.map_map
  rw [Shape.on, Option.bind_eq_none_iff]
  intro d hd
  have hgiven := given_of_fill h hf (hnames ▸ hname) hd
  exact h.required f hf hrequired d (hgiven.trans (h.start f hf))

/-- What the members of an object make up. -/
def ofMembers (s : Shape D α) (ms : List (String × Written)) : Option α :=
  (fill s.fields s.start ms).bind fun d => (s.finish d).toOption

theorem ofMembers_perm (h : s.Orderly IsDefault Inside) (hperm : ms.Perm ms') :
    s.ofMembers ms = s.ofMembers ms' := by
  rw [ofMembers, fill_perm h hperm]
  rfl

theorem ofMembers_unknown (hname : name ∉ s.fields.map (·.name)) :
    s.ofMembers ((name, v) :: ms) = s.ofMembers ms := by
  rw [ofMembers, fill_cons, fillMember_of_not_mem hname]
  rfl

/-- A missing member makes no difference if it has the value that it stands for. It may as well be
behind all others. -/
theorem ofMembers_default (h : s.Orderly IsDefault Inside) (hdefault : IsDefault name v)
    (hmissing : name ∉ ms.map (·.1)) : s.ofMembers ((name, v) :: ms) = s.ofMembers ms := by
  by_cases hname : name ∈ s.fields.map (·.name)
  · obtain ⟨f, hf, rfl⟩ := List.mem_map.1 hname
    have hlast : ((f.name, v) :: ms).Perm (ms ++ [(f.name, v)]) :=
      (List.perm_append_singleton _ _).symm
    rw [ofMembers_perm h hlast, ofMembers, ofMembers, fill_append]
    cases hfill : fill s.fields s.start ms with
    | none => rfl
    | some d =>
      have hgiven : f.given d = false :=
        (given_of_fill h hf hmissing hfill).trans (h.start f hf)
      obtain ⟨set, hset, hfinish⟩ := h.default f hf hdefault d hgiven
      have hmember := (fillMember_eq_some_iff h hf).2 ⟨hgiven, set, hset, rfl⟩
      show (fill s.fields d [(f.name, v)]).bind _ = (s.finish d).toOption
      rw [fill_singleton, hmember, ← hfinish]
      rfl
  · exact ofMembers_unknown hname

/-- Members of the first fields in their order are the same as a list of their values, by induction
on the fields. Here `fs` are the fields that are left. -/
theorem fill_bind_eq_fillValues_bind (h : s.Orderly IsDefault Inside) {pre fs : List (Field D)}
    (hfields : s.fields = pre ++ fs) (hgiven : ∀ f ∈ fs, f.given d = false)
    (hnames : ms.map (·.1) <+: fs.map (·.name)) :
    ((fill s.fields d ms).bind fun d => (s.finish d).toOption) =
      (fillValues fs d (ms.map (·.2))).bind fun d => (s.finish d).toOption := by
  induction fs generalizing pre d ms with
  | nil =>
    obtain rfl : ms = [] := List.map_eq_nil_iff.1 (List.prefix_nil.1 hnames)
    rfl
  | cons f fs ih =>
    have hf : f ∈ s.fields := hfields ▸ List.mem_append_right pre List.mem_cons_self
    have hfields' : s.fields = (pre ++ [f]) ++ fs := by
      rw [hfields, List.append_assoc, List.singleton_append]
    obtain ⟨hfirst, hrest⟩ := List.forall_mem_cons.1 hgiven
    cases ms with
    | nil =>
      cases hoptional : f.optional with
      | false =>
        rw [List.map_nil, fillValues, hoptional]
        exact h.required f hf hoptional d hfirst
      | true =>
        rw [List.map_nil, fillValues, hoptional]
        exact ih hfields' hrest List.nil_prefix
    | cons m ms =>
      obtain ⟨name, v⟩ := m
      obtain ⟨rfl, hnames'⟩ := List.cons_prefix_cons.1 hnames
      rw [fill_cons, fillMember_of_mem h hf, hfirst, List.map_cons, fillValues]
      cases hset : f.value.on v with
      | none => rfl
      | some set =>
        refine ih hfields' (fun g hg => ?_) hnames'
        have hg' : g ∈ s.fields := hfields' ▸ List.mem_append_right _ hg
        have hpair := h.apart
        rw [hfields, List.pairwise_append, List.pairwise_cons] at hpair
        exact ((hpair.2.1.1 g hg).given_right hset d).trans (hrest g hg)

theorem on_values (h : s.Orderly IsDefault Inside) {space space' : Space}
    {members : List (Key × Padded Written)} {items : List (Padded Written)}
    (hnames : members.map (·.1.name) <+: s.fields.map (·.name))
    (hvalues : items.map (·.value) = members.map (·.2.value)) :
    s.on (.object space members) = s.on (.list space' items) := by
  have hfst : (members.map nameValue).map (·.1) = members.map (·.1.name) := List.map_map
  have hsnd : (members.map nameValue).map (·.2) = items.map (·.value) := by
    rw [hvalues]
    exact List.map_map
  have heq := fill_bind_eq_fillValues_bind h (List.nil_append _).symm h.start (hfst ▸ hnames)
  rw [hsnd] at heq
  exact heq

/-- Values that mean the same have the same place in an object. -/
theorem fillMember_inside (h : s.Orderly IsDefault Inside) {v w : Written} (hvw : Inside v w)
    (d : D) (name : String) :
    fillMember s.fields d (name, v) = fillMember s.fields d (name, w) := by
  by_cases hname : name ∈ s.fields.map (·.name)
  · obtain ⟨f, hf, rfl⟩ := List.mem_map.1 hname
    rw [fillMember_of_mem h hf, fillMember_of_mem h hf, h.inside f hf hvw]
  · rw [fillMember_of_not_mem hname, fillMember_of_not_mem hname]

theorem ofMembers_inside (h : s.Orderly IsDefault Inside) {v w : Written} (hvw : Inside v w) :
    s.ofMembers (ms ++ (name, v) :: ms') = s.ofMembers (ms ++ (name, w) :: ms') := by
  simp only [ofMembers, fill_append, fill_cons, fillMember_inside h hvw]

theorem fillValues_inside {fs : List (Field D)} {v w : Written}
    (hvw : ∀ f ∈ fs, f.value.on v = f.value.on w) (d : D) (pre post : List Written) :
    fillValues fs d (pre ++ v :: post) = fillValues fs d (pre ++ w :: post) := by
  induction fs generalizing d pre with
  | nil => cases pre <;> rfl
  | cons f fs ih =>
    obtain ⟨hf, hfs⟩ := List.forall_mem_cons.1 hvw
    cases pre with
    | nil => simp only [List.nil_append, fillValues, hf]
    | cons u pre => simp only [List.cons_append, fillValues, ih hfs]

/-- **A record is read alike** in whatever way it is written. -/
theorem on_eq_of_rewritten (h : s.Orderly IsDefault Inside) {v w : Written}
    (hvw : Rewritten (s.fields.map (·.name)) IsDefault Inside v w) : s.on v = s.on w := by
  induction hvw with
  | refl => rfl
  | symm _ ih => exact ih.symm
  | trans _ _ ih ih' => exact ih.trans ih'
  | permuted hperm => exact ofMembers_perm h hperm
  | unknown hname => exact (ofMembers_unknown hname).symm
  | @default _ _ k w ms hdefault hmissing =>
    have hnames : (ms.map nameValue).map (·.1) = ms.map (·.1.name) := List.map_map
    exact (ofMembers_default h hdefault (hnames ▸ hmissing)).symm
  | values hnames hvalues => exact on_values h hnames hvalues
  | @member _ _ k k' w w' pre post hname hinside =>
    show s.ofMembers ((pre ++ (k, w) :: post).map nameValue) =
      s.ofMembers ((pre ++ (k', w') :: post).map nameValue)
    have hkey : nameValue (k', w') = (k.name, w'.value) := congrArg (·, w'.value) hname.symm
    rw [List.map_append, List.map_append, List.map_cons, List.map_cons, hkey]
    exact ofMembers_inside h hinside
  | @item _ _ w w' pre post hinside =>
    have hvalues := fillValues_inside (fun f hf => h.inside f hf hinside) s.start
      (pre.map (·.value)) (post.map (·.value))
    simp only [Shape.on, List.map_append, List.map_cons, hvalues]

end Shape

end ScanRules.Json
