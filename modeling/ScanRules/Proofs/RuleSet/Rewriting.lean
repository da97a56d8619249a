import ScanRules.Proofs.Json.Rewriting

/-!
# Other ways to write a rule set

- `RuleSpec.Rewritten`, `RuleSet.Rewritten`: ways of writing rules and rule sets that mean the same.
- `RuleSpec.Spoiled`, `RuleSet.Spoiled`: objects that are no rules, and texts with such objects.
- `RuleSpec.orderly`, `RuleSet.orderly`: their fields do not get in each other's way, and what a
  missing member stands for can be written.
- `RuleSet.writtenFreely`: a rule set is read alike however it is written.
-/

namespace ScanRules

open Json

namespace Json

/-! ## Codecs with exact readers -/

instance : Legible String := ⟨(Reads.scalar _ _).exact⟩

instance : Legible Bool := ⟨(Reads.scalar _ _).exact⟩

instance : Legible Flags := ⟨(Reads.scalar _ _).exact⟩

instance : Legible Int64 := ⟨((Reads.scalar _ _).map Int64.ofInt).exact⟩

theorem on_scalar {α : Type} (expected : String) (take : Scalar → Except FaultKind α)
    (w : Written) :
    (Reader.scalar expected take).on w = w.scalar?.bind fun v => (take v).toOption :=
  congrFun (Reads.scalar expected take).on_eq w

variable {D α β : Type} [Codec α] [Legible α] [Codec β] [Legible β]

instance : Legible (Option α) := ⟨(Reads.optional Legible.exact).exact⟩

instance : Legible (List α) := ⟨(Reads.list Legible.exact).exact⟩

theorem on_list (w : Written) : (Codec.reader : Reader (List α)).on w =
    w.items?.bind (·.mapM (Codec.reader : Reader α).on) :=
  congrFun (Reads.list Legible.exact).on_eq w

theorem on_null : (Codec.reader : Reader (Option α)).on .null = some none :=
  congrFun (Reads.optional Legible.exact).on_eq .null

/-! ## Fields -/

section Fields

variable {name name' : String} {optional optional' : Bool} {get : D → Option α}
  {get' : D → Option β} {set : α → D → D} {set' : β → D → D}

theorem exact_of (name : String) (optional : Bool) (get : D → Option α) (set : α → D → D) :
    Exact (Field.of name optional get set Codec.reader).value :=
  (Reads.map Legible.exact set).exact

/-- A field takes a value for what its reader takes it for. -/
theorem on_of (w : Written) : (Field.of name optional get set Codec.reader).value.on w =
    ((Codec.reader : Reader α).on w).map set :=
  congrFun (Reads.map Legible.exact set).on_eq w

theorem on_of_eq_some_iff {w : Written} {f : D → D} :
    (Field.of name optional get set Codec.reader).value.on w = some f ↔
      ∃ a, (Codec.reader : Reader α).on w = some a ∧ set a = f := by
  rw [on_of, Option.map_eq_some_iff]

theorem given_of (hget : ∀ a d, get (set a d) = some a) {w : Written} {f : D → D}
    (hset : (Field.of name optional get set Codec.reader).value.on w = some f) (d : D) :
    (Field.of name optional get set Codec.reader).given (f d) := by
  obtain ⟨a, -, rfl⟩ := on_of_eq_some_iff.1 hset
  exact (congrArg Option.isSome (hget a d)).trans rfl

theorem apart_of (hget : ∀ b d, get (set' b d) = get d) (hget' : ∀ a d, get' (set a d) = get' d)
    (hcomm : ∀ a b d, set a (set' b d) = set' b (set a d)) :
    (Field.of name optional get set Codec.reader).Apart
      (Field.of name' optional' get' set' Codec.reader) where
  given_left hset d := by
    obtain ⟨b, -, rfl⟩ := on_of_eq_some_iff.1 hset
    exact congrArg Option.isSome (hget b d)
  given_right hset d := by
    obtain ⟨a, -, rfl⟩ := on_of_eq_some_iff.1 hset
    exact congrArg Option.isSome (hget' a d)
  comm hset hset' d := by
    obtain ⟨a, -, rfl⟩ := on_of_eq_some_iff.1 hset
    obtain ⟨b, -, rfl⟩ := on_of_eq_some_iff.1 hset'
    exact hcomm a b d

end Fields

end Json

namespace RuleSpec

/-- The names of the fields of a rule, in their order. -/
def fieldNames : List String := ["name", "pattern", "flags", "state", "pop", "push"]

/-- The values that missing members of a rule stand for. -/
@[mk_iff]
inductive IsDefault : String → Written → Prop
  | name : IsDefault "name" (.text [])
  | flags : IsDefault "flags" (.text [])
  | state : IsDefault "state" .null
  | pop : IsDefault "pop" (.boolean false)
  | push (s : Space) : IsDefault "push" (.list s [])

/-- Ways of writing a rule that mean the same. -/
def Rewritten : Written → Written → Prop :=
  Json.Rewritten fieldNames IsDefault Eq

/-- Objects that are no rules. -/
inductive Spoiled : Written → Prop
  /-- There is no pattern. -/
  | missing {s : Space} {members : List (Key × Padded Written)} :
    "pattern" ∉ members.map (·.1.name) → Spoiled (.object s members)
  /-- The member of a field is there twice. -/
  | repeated {s : Space} {members : List (Key × Padded Written)} {name : String} :
    name ∈ fieldNames → (members.map (·.1.name)).Duplicate name → Spoiled (.object s members)

variable {S : Type} [Codec S] [Legible S]

theorem orderly : (shape : Shape (Draft S) (RuleSpec S)).Orderly IsDefault Eq where
  exact f hf := by
    simp only [shape, List.mem_cons, List.not_mem_nil, or_false] at hf
    obtain rfl | rfl | rfl | rfl | rfl | rfl := hf <;> exact exact_of _ _ _ _
  nodup := by
    show fieldNames.Nodup
    decide
  apart := by
    simp only [shape, List.pairwise_cons, List.mem_cons, List.not_mem_nil, or_false,
      forall_eq_or_imp, forall_eq, false_imp_iff, implies_true, List.Pairwise.nil, and_true]
    and_intros <;> exact apart_of (fun _ _ => rfl) (fun _ _ => rfl) fun _ _ _ => rfl
  start f hf := by
    simp only [shape, List.mem_cons, List.not_mem_nil, or_false] at hf
    obtain rfl | rfl | rfl | rfl | rfl | rfl := hf <;> rfl
  given f hf := by
    simp only [shape, List.mem_cons, List.not_mem_nil, or_false] at hf
    obtain rfl | rfl | rfl | rfl | rfl | rfl := hf <;> (apply given_of; exact fun _ _ => rfl)
  required f hf hrequired d hgiven := by
    simp only [shape, List.mem_cons, List.not_mem_nil, or_false] at hf
    obtain rfl | rfl | rfl | rfl | rfl | rfl := hf
    case inr.inl =>
      have hpattern : d.pattern = none := by simpa [Field.of] using hgiven
      simp only [shape, hpattern]
      rfl
    all_goals cases hrequired
  default f hf w hdefault d hgiven := by
    obtain ⟨name, pattern, flags, state, pop, push⟩ := d
    simp only [shape, List.mem_cons, List.not_mem_nil, or_false] at hf
    -- what is given when a member has the value that it stands for, is what takes its place
    obtain rfl | rfl | rfl | rfl | rfl | rfl := hf <;>
      simp [Field.of, isDefault_iff] at hdefault hgiven
    · subst hdefault hgiven
      have hon : (Codec.reader : Reader String).on (.text []) = some "" := on_scalar _ _ _
      exact ⟨_, on_of_eq_some_iff.2 ⟨"", hon, rfl⟩, rfl⟩
    · subst hdefault hgiven
      have hon : (Codec.reader : Reader Flags).on (.text []) = some .empty := on_scalar _ _ _
      exact ⟨_, on_of_eq_some_iff.2 ⟨.empty, hon, rfl⟩, rfl⟩
    · subst hdefault hgiven
      exact ⟨_, on_of_eq_some_iff.2 ⟨none, on_null, rfl⟩, rfl⟩
    · subst hdefault hgiven
      have hon : (Codec.reader : Reader Bool).on (.boolean false) = some false := on_scalar _ _ _
      exact ⟨_, on_of_eq_some_iff.2 ⟨false, hon, rfl⟩, rfl⟩
    · obtain ⟨space, rfl⟩ := hdefault
      subst hgiven
      have hon : (Codec.reader : Reader (List S)).on (.list space []) = some [] := on_list _
      exact ⟨_, on_of_eq_some_iff.2 ⟨[], hon, rfl⟩, rfl⟩
  inside f _ v w h := congrArg f.value.on h

instance : Legible (RuleSpec S) := ⟨(Reads.record orderly.exact).exact⟩

theorem on_eq (w : Written) : (Codec.reader : Reader (RuleSpec S)).on w = shape.on w :=
  congrFun (Reads.record orderly.exact).on_eq w

/-- A rule is read alike in whatever way it is written. -/
theorem on_eq_of_rewritten {v w : Written} (h : Rewritten v w) :
    (Codec.reader : Reader (RuleSpec S)).on v = (Codec.reader : Reader (RuleSpec S)).on w := by
  rw [on_eq, on_eq]
  exact Shape.on_eq_of_rewritten orderly h

theorem on_eq_none_of_spoiled {w : Written} (h : Spoiled w) :
    (Codec.reader : Reader (RuleSpec S)).on w = none := by
  rw [on_eq]
  cases h with
  | missing hpattern =>
    exact Shape.on_eq_none_of_missing orderly (.tail _ (.head _)) rfl hpattern
  | repeated hname hdup => exact Shape.on_eq_none_of_duplicate orderly hname hdup

end RuleSpec

namespace RuleSet

/-- The names of the fields of a rule set, in their order. -/
def fieldNames : List String := ["rules", "ignore"]

/-- The values that missing members of a rule set stand for. -/
@[mk_iff]
inductive IsDefault : String → Written → Prop
  | rules (s : Space) : IsDefault "rules" (.list s [])
  | ignored (s : Space) : IsDefault "ignore" (.list s [])

/-- Lists of rules one of which is written in another way. -/
inductive RuleRewritten : Written → Written → Prop
  | intro {s s' : Space} {pre post : List (Padded Written)} {v w : Padded Written} :
    RuleSpec.Rewritten v.value w.value →
    RuleRewritten (.list s (pre ++ v :: post)) (.list s' (pre ++ w :: post))

/-- Ways of writing a rule set that mean the same. -/
def Rewritten : Written → Written → Prop :=
  Json.Rewritten fieldNames IsDefault RuleRewritten

/-- Lists with an object that is no rule. -/
def HasSpoiled (w : Written) : Prop :=
  ∃ s items, w = .list s items ∧ ∃ v ∈ items, RuleSpec.Spoiled v.value

/-- Objects that are no rule set. -/
inductive Spoiled : Written → Prop
  /-- The member of a field is there twice. -/
  | repeated {s : Space} {members : List (Key × Padded Written)} {name : String} :
    name ∈ fieldNames → (members.map (·.1.name)).Duplicate name → Spoiled (.object s members)
  /-- One of the rules is none. -/
  | member {s : Space} {members : List (Key × Padded Written)} {k : Key} {v : Padded Written} :
    (k, v) ∈ members → k.name ∈ fieldNames → HasSpoiled v.value → Spoiled (.object s members)
  | item {s : Space} {items : List (Padded Written)} {v : Padded Written} : v ∈ items →
    HasSpoiled v.value → Spoiled (.list s items)

variable {S : Type} [Codec S] [Legible S]

theorem on_list_eq_of_rewritten {v w : Written} (h : RuleRewritten v w) :
    (Codec.reader : Reader (List (RuleSpec S))).on v =
      (Codec.reader : Reader (List (RuleSpec S))).on w := by
  obtain ⟨h⟩ := h
  rw [on_list, on_list]
  simp only [Written.items?, List.map_append, List.map_cons, Option.bind_some, List.mapM_append,
    List.mapM_cons, RuleSpec.on_eq_of_rewritten h]

theorem on_list_eq_none_of_hasSpoiled {w : Written} (h : HasSpoiled w) :
    (Codec.reader : Reader (List (RuleSpec S))).on w = none := by
  obtain ⟨space, items, rfl, v, hv, hspoiled⟩ := h
  obtain ⟨pre, post, rfl⟩ := List.append_of_mem hv
  rw [on_list]
  simp [Written.items?, List.mapM_append, List.mapM_cons,
    RuleSpec.on_eq_none_of_spoiled (S := S) hspoiled]

theorem orderly : (shape : Shape (Draft S) (RuleSet S)).Orderly IsDefault RuleRewritten where
  exact f hf := by
    simp only [shape, List.mem_cons, List.not_mem_nil, or_false] at hf
    obtain rfl | rfl := hf <;> exact exact_of _ _ _ _
  nodup := by
    show fieldNames.Nodup
    decide
  apart := by
    simp only [shape, List.pairwise_cons, List.mem_cons, List.not_mem_nil, or_false, forall_eq,
      false_imp_iff, implies_true, List.Pairwise.nil, and_true]
    exact apart_of (fun _ _ => rfl) (fun _ _ => rfl) fun _ _ _ => rfl
  start f hf := by
    simp only [shape, List.mem_cons, List.not_mem_nil, or_false] at hf
    obtain rfl | rfl := hf <;> rfl
  given f hf := by
    simp only [shape, List.mem_cons, List.not_mem_nil, or_false] at hf
    obtain rfl | rfl := hf <;> (apply given_of; exact fun _ _ => rfl)
  required f hf hrequired := by
    simp only [shape, List.mem_cons, List.not_mem_nil, or_false] at hf
    obtain rfl | rfl := hf <;> cases hrequired
  default f hf w hdefault d hgiven := by
    have hon : ∀ space, (Codec.reader : Reader (List (RuleSpec S))).on (.list space []) = some [] :=
      fun space => on_list _
    obtain ⟨rules, ignored⟩ := d
    simp only [shape, List.mem_cons, List.not_mem_nil, or_false] at hf
    obtain rfl | rfl := hf <;> simp [Field.of, isDefault_iff] at hdefault hgiven
    · obtain ⟨space, rfl⟩ := hdefault
      subst hgiven
      exact ⟨_, on_of_eq_some_iff.2 ⟨[], hon space, rfl⟩, rfl⟩
    · obtain ⟨space, rfl⟩ := hdefault
      subst hgiven
      exact ⟨_, on_of_eq_some_iff.2 ⟨[], hon space, rfl⟩, rfl⟩
  inside f hf v w h := by
    simp only [shape, List.mem_cons, List.not_mem_nil, or_false] at hf
    obtain rfl | rfl := hf <;> rw [on_of, on_of, on_list_eq_of_rewritten h]

instance : Legible (RuleSet S) := ⟨(Reads.record orderly.exact).exact⟩

theorem on_eq (w : Written) : (Codec.reader : Reader (RuleSet S)).on w = shape.on w :=
  congrFun (Reads.record orderly.exact).on_eq w

theorem on_eq_of_rewritten {v w : Written} (h : Rewritten v w) :
    (Codec.reader : Reader (RuleSet S)).on v = (Codec.reader : Reader (RuleSet S)).on w := by
  rw [on_eq, on_eq]
  exact Shape.on_eq_of_rewritten orderly h

theorem on_eq_none_of_spoiled {w : Written} (h : Spoiled w) :
    (Codec.reader : Reader (RuleSet S)).on w = none := by
  have hfield : ∀ {v : Written}, HasSpoiled v →
      ∀ f ∈ (shape : Shape (Draft S) (RuleSet S)).fields, f.value.on v = none := by
    intro v hv f hf
    simp only [shape, List.mem_cons, List.not_mem_nil, or_false] at hf
    obtain rfl | rfl := hf <;> rw [on_of, on_list_eq_none_of_hasSpoiled hv] <;> rfl
  rw [on_eq]
  cases h with
  | repeated hname hdup => exact Shape.on_eq_none_of_duplicate orderly hname hdup
  | member hm hname hv => exact Shape.on_eq_none_of_unreadable orderly hm hname (hfield hv)
  | item hv hspoiled => exact Shape.on_list_eq_none_of_unreadable hv (hfield hspoiled)

end RuleSet

end ScanRules
