import ScanRules.Proofs.Pattern.Assertion
import ScanRules.Proofs.Pattern.Raised

/-!
# Trees in other places

A tree that is a part of a larger pattern stands in another place there, and its groups may have
higher numbers. It means the same, apart from these numbers.

- `ClassTree.bare`, `Tree.bare`: trees without the places of their parts.
- `Tree.meaning_bare`: what they mean.
-/

namespace ScanRules.Pattern

/-- The place that all parts of a bare tree have. -/
def nowhere : Extent := ⟨0, 0⟩

/-- The character without its place. -/
def Literal.bare (l : Literal) : Literal := { l with extent := nowhere }

mutual

/-- The class without the places of its parts. -/
def ClassTree.bare : ClassTree → ClassTree
  | .nothing _ => .nothing nowhere
  | .literal l => .literal l.bare
  | .range first last _ => .range first.bare last.bare nowhere
  | .ascii kind negated _ => .ascii kind negated nowhere
  | .property query negated _ => .property query negated nowhere
  | .shorthand kind negated _ => .shorthand kind negated nowhere
  | .bracketed negated body _ => .bracketed negated body.bare nowhere
  | .union items _ => .union (ClassTree.bareAll items) nowhere
  | .operation op left right _ => .operation op left.bare right.bare nowhere

/-- Classes without the places of their parts. -/
def ClassTree.bareAll : List ClassTree → List ClassTree
  | [] => []
  | item :: rest => item.bare :: ClassTree.bareAll rest

end

mutual

/-- The tree without the places of its parts, and with `n` more for the numbers of its groups. -/
def Tree.bare (n : Nat) : Tree → Tree
  | .empty _ => .empty nowhere
  | .settings changes _ => .settings changes nowhere
  | .literal l => .literal l.bare
  | .dot _ => .dot nowhere
  | .assertion kind _ => .assertion kind nowhere
  | .property query negated _ => .property query negated nowhere
  | .shorthand kind negated _ => .shorthand kind negated nowhere
  | .bracketed negated body _ => .bracketed negated body.bare nowhere
  | .repetition body least most greedy _ => .repetition (body.bare n) least most greedy nowhere
  | .group (.capture index) body _ => .group (.capture (index + n)) (body.bare n) nowhere
  | .group (.plain changes) body _ => .group (.plain changes) (body.bare n) nowhere
  | .concat parts _ => .concat (Tree.bareAll n parts) nowhere
  | .alternation branches _ => .alternation (Tree.bareAll n branches) nowhere

/-- Trees without the places of their parts, and with `n` more for the numbers of their groups. -/
def Tree.bareAll (n : Nat) : List Tree → List Tree
  | [] => []
  | tree :: rest => tree.bare n :: Tree.bareAll n rest

end

variable {m m' : Modes} {s : CharSet}

/-! ## Sets

The places of parts are told in faults only. -/

theorem Modes.foldAndNegate_bare {negated : Bool} {extent : Extent} {t : CharSet}
    (h : m.foldAndNegate negated extent s = .ok t) : m.foldAndNegate negated nowhere s = .ok t := by
  unfold Modes.foldAndNegate at h ⊢
  by_cases hplain : !negated
  · rwa [if_pos hplain] at h ⊢
  by_cases hunicode : m.unicode
  · rwa [if_neg hplain, if_pos hunicode] at h ⊢
  · rw [if_neg hplain, if_neg hunicode] at h
    cases h

theorem Modes.shorthand_bare {kind : ShorthandClass} {negated : Bool} {extent : Extent}
    (h : m.shorthand kind negated extent = .ok s) : m.shorthand kind negated nowhere = .ok s := by
  unfold Modes.shorthand at h ⊢
  simp only at h ⊢
  by_cases hplain : !negated
  · rwa [if_pos hplain] at h ⊢
  by_cases hunicode : m.unicode
  · rwa [if_neg hplain, if_pos hunicode] at h ⊢
  · rw [if_neg hplain, if_neg hunicode] at h
    cases h

theorem Modes.property_bare {query : PropertyQuery} {negated : Bool} {extent : Extent}
    (h : m.property query negated extent = .ok s) : m.property query negated nowhere = .ok s := by
  unfold Modes.property at h ⊢
  by_cases hbytes : !m.unicode
  · rw [if_pos hbytes] at h
    cases h
  rw [if_neg hbytes] at h ⊢
  cases hquery : query.members with
  | ok t =>
    simp only [hquery] at h ⊢
    exact m.foldAndNegate_bare h
  | error fault =>
    simp only [hquery] at h
    cases fault <;> cases h

theorem Modes.literal_bare {l : Literal} {c : Char} (h : m.literal l = .ok c) :
    m.literal l.bare = .ok c := by
  unfold Modes.literal at h ⊢
  split at h
  · cases h
  · next hbyte => exact (if_neg hbyte).trans h

theorem Modes.classLiteral_bare {l : Literal} {c : Char} (h : m.classLiteral l = .ok c) :
    m.classLiteral l.bare = .ok c := by
  obtain ⟨d, hd, h⟩ := exists_of_bind_eq_ok h
  rw [Modes.classLiteral, m.literal_bare hd]
  split at h
  · cases h
  · next hbyte => exact (if_neg hbyte).trans h

mutual

theorem ClassTree.members_bare : ∀ {t : ClassTree} {s : CharSet},
    t.members m = .ok s → t.bare.members m = .ok s
  | .nothing _, _, h => h
  | .literal l, _, h => by
    obtain ⟨c, hc, h⟩ := exists_of_bind_eq_ok h
    rw [ClassTree.bare, ClassTree.members, Modes.classLiteral_bare hc]
    exact h
  | .range first last _, _, h => by
    obtain ⟨low, hlow, h⟩ := exists_of_bind_eq_ok h
    obtain ⟨high, hhigh, h⟩ := exists_of_bind_eq_ok h
    rw [ClassTree.bare, ClassTree.members, Modes.classLiteral_bare hlow,
      Modes.classLiteral_bare hhigh]
    exact h
  | .ascii _ _ _, _, h => Modes.foldAndNegate_bare h
  | .property _ _ _, _, h => Modes.property_bare h
  | .shorthand _ _ _, _, h => Modes.shorthand_bare h
  | .bracketed negated body _, _, h => by
    obtain ⟨s, hs, h⟩ := exists_of_bind_eq_ok h
    rw [ClassTree.bare, ClassTree.members, ClassTree.members_bare hs]
    exact Modes.foldAndNegate_bare h
  | .union items _, _, h => ClassTree.membersOfAny_bare h
  | .operation op left right _, _, h => by
    obtain ⟨s, hs, h⟩ := exists_of_bind_eq_ok h
    obtain ⟨t, ht, h⟩ := exists_of_bind_eq_ok h
    rw [ClassTree.bare, ClassTree.members, ClassTree.members_bare hs, ClassTree.members_bare ht]
    exact h

theorem ClassTree.membersOfAny_bare : ∀ {items : List ClassTree} {s : CharSet},
    ClassTree.membersOfAny m items = .ok s →
      ClassTree.membersOfAny m (ClassTree.bareAll items) = .ok s
  | [], _, h => h
  | item :: rest, _, h => by
    obtain ⟨s, hs, h⟩ := exists_of_bind_eq_ok h
    obtain ⟨t, ht, h⟩ := exists_of_bind_eq_ok h
    rw [ClassTree.bareAll, ClassTree.membersOfAny, ClassTree.members_bare hs,
      ClassTree.membersOfAny_bare ht]
    exact h

end

/-! ## Expressions -/

open Pattern.Expr

variable {n : Nat}

theorem Modes.raised_charExpr (m : Modes) (c : Char) :
    (m.charExpr c).raised n = m.charExpr c := by
  unfold Modes.charExpr
  split
  · rfl
  · exact ofSet_raised _ _

theorem Modes.dot_bare {extent : Extent} {e : Expr} (h : m.dot extent = .ok e) :
    m.dot nowhere = .ok (e.raised n) := by
  unfold Modes.dot at h ⊢
  by_cases hbytes : !m.unicode
  · rw [if_pos hbytes] at h
    cases h
  rw [if_neg hbytes] at h ⊢
  rw [h]
  split at h
  · rw [← Except.ok.inj h, ofSet_raised]
  · split at h <;> rw [← Except.ok.inj h, ofSet_raised]

mutual

/-- A bare tree means the same, with higher numbers for its groups. -/
theorem Tree.meaning_bare {n : Nat} : ∀ {tree : Tree} {m m' : Modes} {e : Expr},
    tree.meaning m = .ok (e, m') → (tree.bare n).meaning m = .ok (e.raised n, m')
  | .empty _, _, _, _, h | .settings _ _, _, _, _, h | .assertion _ _, _, _, _, h => by
    obtain ⟨rfl, rfl⟩ := Prod.mk.inj (Except.ok.inj h)
    rfl
  | .literal l, m, _, _, h => by
    obtain ⟨c, hc, h⟩ := exists_of_bind_eq_ok h
    obtain ⟨rfl, rfl⟩ := Prod.mk.inj (Except.ok.inj h)
    rw [Tree.bare, Tree.meaning, Modes.literal_bare hc, m.raised_charExpr]
    rfl
  | .dot _, _, _, _, h => by
    obtain ⟨d, hd, h⟩ := exists_of_bind_eq_ok h
    obtain ⟨rfl, rfl⟩ := Prod.mk.inj (Except.ok.inj h)
    rw [Tree.bare, Tree.meaning, Modes.dot_bare (n := n) hd]
    rfl
  | .property _ _ _, _, _, _, h => by
    obtain ⟨s, hs, h⟩ := exists_of_bind_eq_ok h
    obtain ⟨rfl, rfl⟩ := Prod.mk.inj (Except.ok.inj h)
    rw [Tree.bare, Tree.meaning, Modes.property_bare hs, ofSet_raised]
    rfl
  | .shorthand _ _ _, _, _, _, h => by
    obtain ⟨s, hs, h⟩ := exists_of_bind_eq_ok h
    obtain ⟨rfl, rfl⟩ := Prod.mk.inj (Except.ok.inj h)
    rw [Tree.bare, Tree.meaning, Modes.shorthand_bare hs, ofSet_raised]
    rfl
  | .bracketed _ _ _, _, _, _, h => by
    obtain ⟨s, hs, h⟩ := exists_of_bind_eq_ok h
    obtain ⟨t, ht, h⟩ := exists_of_bind_eq_ok h
    obtain ⟨rfl, rfl⟩ := Prod.mk.inj (Except.ok.inj h)
    have hbare : Modes.foldAndNegate _ _ nowhere s = .ok t := Modes.foldAndNegate_bare ht
    simp only [Tree.bare, Tree.meaning, ClassTree.members_bare hs, ofSet_raised, bind, Except.bind,
      hbare]
    rfl
  | .repetition body least most greedy _, _, _, _, h => by
    obtain ⟨⟨d, m₁⟩, hd, h⟩ := exists_of_bind_eq_ok h
    obtain ⟨rfl, rfl⟩ := Prod.mk.inj (Except.ok.inj h)
    rw [Tree.bare, Tree.meaning, Tree.meaning_bare hd, ← repeat_raised]
    rfl
  | .group (.plain changes) body _, _, _, _, h => by
    obtain ⟨⟨d, m₁⟩, hd, h⟩ := exists_of_bind_eq_ok h
    obtain ⟨rfl, rfl⟩ := Prod.mk.inj (Except.ok.inj h)
    rw [Tree.bare, Tree.meaning, Tree.meaning_bare hd]
    rfl
  | .group (.capture index) body _, _, _, _, h => by
    obtain ⟨⟨d, m₁⟩, hd, h⟩ := exists_of_bind_eq_ok h
    obtain ⟨rfl, rfl⟩ := Prod.mk.inj (Except.ok.inj h)
    rw [Tree.bare, Tree.meaning, Tree.meaning_bare hd]
    rfl
  | .concat parts _, _, _, _, h => by
    obtain ⟨⟨ds, m₁⟩, hds, h⟩ := exists_of_bind_eq_ok h
    obtain ⟨rfl, rfl⟩ := Prod.mk.inj (Except.ok.inj h)
    rw [Tree.bare, Tree.meaning, Tree.meanings_bare hds, ← sequence_raised]
    rfl
  | .alternation branches _, _, _, _, h => by
    obtain ⟨⟨ds, m₁⟩, hds, h⟩ := exists_of_bind_eq_ok h
    obtain ⟨rfl, rfl⟩ := Prod.mk.inj (Except.ok.inj h)
    rw [Tree.bare, Tree.meaning, Tree.meanings_bare hds, ← choice_raised]
    rfl

theorem Tree.meanings_bare {n : Nat} : ∀ {trees : List Tree} {m m' : Modes} {es : List Expr},
    Tree.meanings m trees = .ok (es, m') →
      Tree.meanings m (Tree.bareAll n trees) = .ok (es.map (raised n), m')
  | [], _, _, _, h => by
    obtain ⟨rfl, rfl⟩ := Prod.mk.inj (Except.ok.inj h)
    rfl
  | tree :: rest, _, _, _, h => by
    obtain ⟨⟨d, m₁⟩, hd, h⟩ := exists_of_bind_eq_ok h
    obtain ⟨⟨ds, m₂⟩, hds, h⟩ := exists_of_bind_eq_ok h
    obtain ⟨rfl, rfl⟩ := Prod.mk.inj (Except.ok.inj h)
    simp only [Tree.bareAll, Tree.meanings, Tree.meaning_bare hd, Tree.meanings_bare hds, bind,
      Except.bind]
    rfl

end

end ScanRules.Pattern
