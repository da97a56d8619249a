import Mathlib.Data.List.Basic
import ScanRules.CharSet

/-!
# Unions of sets

A union is made by merging two lists of ranges and joining the neighbours that overlap or touch. It
has the members of both sets, in whatever order their ranges come.

- `CharRange.contains_hull`: two ranges that overlap or touch make up one.
- `CharSet.covers_union`: the members of a union.
- `CharSet.covers_ofRanges`: the members of a set that is made of ranges.
- `CharSet.has_of_only?`: a set with an only member has the members of that one.
-/

namespace ScanRules

theorem CharRange.contains_iff {r : CharRange} {n : Nat} :
    r.contains n = true ↔ r.first ≤ n ∧ n ≤ r.last := by
  simp only [contains, Bool.and_eq_true, decide_eq_true_eq]

/-- There is nothing between two ranges that overlap or touch. -/
theorem CharRange.contains_hull {r s : CharRange} (h : r.touches s = true) (n : Nat) :
    (r.hull s).contains n = (r.contains n || s.contains n) := by
  have hends : max r.first s.first ≤ min r.last s.last + 1 := of_decide_eq_true h
  rw [Bool.eq_iff_iff, Bool.or_eq_true, contains_iff, contains_iff, contains_iff]
  show min r.first s.first ≤ n ∧ n ≤ max r.last s.last ↔ _
  constructor
  · rintro ⟨hfirst, hlast⟩
    by_cases hr : r.first ≤ n ∧ n ≤ r.last
    · exact .inl hr
    · -- what is not in `r` is on the side of it where `s` is
      right
      omega
  · rintro (⟨hfirst, hlast⟩ | ⟨hfirst, hlast⟩)
    · omega
    · omega

namespace CharSet

variable {r : CharRange} {rs ss : List CharRange} {s t : CharSet}

/-! ## Merging and joining -/

theorem merge_eq (rs ss : List CharRange) : merge rs ss = rs.merge ss before := by
  induction rs generalizing ss with
  | nil => rw [merge, List.nil_merge]
  | cons r rest ih =>
    rw [merge]
    induction ss with
    | nil => rw [weave, ih, List.merge_right, List.merge_right]
    | cons s more ihs => rw [weave, List.cons_merge_cons, ih, ihs]

theorem covers_merge (rs ss : List CharRange) (n : Nat) :
    covers (merge rs ss) n = (covers rs n || covers ss n) := by
  rw [merge_eq, covers, (List.merge_perm_append before).any_eq, List.any_append]
  rfl

theorem covers_joinFrom (r : CharRange) (rs : List CharRange) (n : Nat) :
    covers (joinFrom r rs) n = covers (r :: rs) n := by
  induction rs generalizing r with
  | nil => rfl
  | cons s rest ih =>
    rw [joinFrom]
    by_cases htouch : r.touches s = true
    · rw [if_pos htouch, ih]
      show ((r.hull s).contains n || covers rest n) =
        (r.contains n || (s.contains n || covers rest n))
      rw [CharRange.contains_hull htouch, Bool.or_assoc]
    · rw [if_neg htouch]
      show (r.contains n || covers (joinFrom s rest) n) =
        (r.contains n || covers (s :: rest) n)
      rw [ih]

theorem covers_join (rs : List CharRange) (n : Nat) : covers (join rs) n = covers rs n := by
  cases rs with
  | nil => rfl
  | cons r rest => exact covers_joinFrom r rest n

/-! ## Unions -/

/-- A union has the members of both sets. -/
theorem covers_union (s t : CharSet) (n : Nat) :
    covers (s ∪ t).ranges n = (covers s.ranges n || covers t.ranges n) := by
  show covers (join (merge s.ranges t.ranges)) n = _
  rw [covers_join, covers_merge]

/-- The union of several sets has the members of all of them. -/
theorem covers_foldl_union (sets : List CharSet) (s : CharSet) (n : Nat) :
    covers (sets.foldl (· ∪ ·) s).ranges n =
      (covers s.ranges n || sets.any (covers ·.ranges n)) := by
  induction sets generalizing s with
  | nil => exact (Bool.or_false _).symm
  | cons t rest ih => rw [List.foldl_cons, ih, covers_union, List.any_cons, Bool.or_assoc]

/-- A set that is made of ranges has the members of all of them. -/
theorem covers_ofRanges (rs : List CharRange) (n : Nat) :
    covers (ofRanges rs).ranges n = rs.any (·.contains n) := by
  have hunion := covers_foldl_union (rs.map fun r => ⟨[r]⟩) .empty n
  rw [List.foldl_map, List.any_map] at hunion
  refine hunion.trans (congrArg rs.any (funext fun r => ?_))
  exact Bool.or_false _

/-! ## Characters -/

/-- A set that is made of characters has them as its members. -/
theorem has_ofChars (cs : List Char) (d : Char) :
    (ofRanges (cs.map fun c => ⟨c.toNat, c.toNat⟩)).has d = cs.any fun c => (single c).has d := by
  rw [has, covers_ofRanges, List.any_map]
  refine congrArg cs.any (funext fun c => ?_)
  show CharRange.contains ⟨c.toNat, c.toNat⟩ d.toNat = covers [⟨c.toNat, c.toNat⟩] d.toNat
  exact (Bool.or_false _).symm

theorem has_foldl_union (sets : List CharSet) (c : Char) :
    (sets.foldl (· ∪ ·) empty).has c = sets.any (·.has c) :=
  covers_foldl_union sets empty c.toNat

/-- The only member of a set is its only member indeed. -/
theorem has_of_only? {c : Char} (h : s.only? = some c) : s.has = (single c).has := by
  unfold only? at h
  split at h
  · next r hranges =>
    simp only at h
    split at h
    · next hends =>
      rw [Option.some.inj h] at hends
      obtain ⟨first, last⟩ := r
      obtain ⟨rfl, rfl⟩ : first = c.toNat ∧ last = c.toNat := hends
      funext d
      rw [has, hranges]
      rfl
    · cases h
  · cases h

end CharSet

end ScanRules
