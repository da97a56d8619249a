import ScanRules.Proofs.Pattern.LookFree
import ScanRules.Rule

/-!
# Patterns without assertions

- `Tree.hasAssertion`: is some part of a pattern, as it is written, an assertion?
- `Expr.Kept.of_meaning`: what simplifying keeps holds of the meanings of trees.
- `Pattern.assertionFree`: no part of the pattern is one.
- `Pattern.blind_of_assertionFree`: the machine of such a pattern looks at nothing but what it
  takes.
- `Rule.reach_eq_of_assertionFree`, `Rule.reach_append`: so what comes before a text does not matter
  to a rule with such a pattern, and what comes behind a match does not either.
-/

namespace ScanRules

namespace Pattern

mutual

/-- Is some part of the tree an assertion? -/
def Tree.hasAssertion : Tree → Bool
  | .assertion _ _ => true
  | .repetition body _ _ _ _ => body.hasAssertion
  | .group _ body _ => body.hasAssertion
  | .concat parts _ => Tree.anyAssertion parts
  | .alternation branches _ => Tree.anyAssertion branches
  | .empty _ | .settings _ _ | .literal _ | .dot _ | .property _ _ _ | .shorthand _ _ _
  | .bracketed _ _ _ => false

/-- Is some part of some of the trees an assertion? -/
def Tree.anyAssertion : List Tree → Bool
  | [] => false
  | tree :: rest => tree.hasAssertion || Tree.anyAssertion rest

end

/-- A computation that succeeds has succeeded in its first part. -/
theorem exists_of_bind_eq_ok {ε α β : Type} {x : Except ε α} {f : α → Except ε β} {b : β}
    (h : x >>= f = .ok b) : ∃ a, x = .ok a ∧ f a = .ok b := by
  cases x with
  | error e => cases h
  | ok a => exact ⟨a, rfl, h⟩

namespace Expr.Kept

variable {P : Expr → Prop} {m m' : Modes} {e : Expr}

theorem charExpr (hP : Kept P) (m : Modes) (c : Char) : P (m.charExpr c) := by
  unfold Modes.charExpr
  split
  · exact hP.literal _
  · exact hP.ofSet _ _

theorem dot (hP : Kept P) {extent : Extent} (h : m.dot extent = .ok e) : P e := by
  unfold Modes.dot at h
  split at h
  · cases h
  · split at h
    · exact Except.ok.inj h ▸ hP.ofSet _ _
    · split at h <;> exact Except.ok.inj h ▸ hP.ofSet _ _

mutual

/-- A property that simplifying keeps holds of what a tree means, if it holds of assertions or if
there are none in the tree. -/
theorem of_meaning (hP : Kept P) {m m' : Modes} {e : Expr} :
    ∀ {tree : Tree}, (tree.hasAssertion = true → ∀ look, P (.look look)) →
      tree.meaning m = .ok (e, m') → P e
  | .empty _, _, h | .settings _ _, _, h => by
    obtain ⟨rfl, -⟩ := Prod.mk.inj (Except.ok.inj h)
    exact hP.empty
  | .assertion kind _, hlook, h => by
    obtain ⟨rfl, -⟩ := Prod.mk.inj (Except.ok.inj h)
    exact hlook rfl _
  | .literal l, _, h => by
    obtain ⟨c, -, h⟩ := exists_of_bind_eq_ok h
    obtain ⟨rfl, -⟩ := Prod.mk.inj (Except.ok.inj h)
    exact hP.charExpr m c
  | .dot extent, _, h => by
    obtain ⟨d, hd, h⟩ := exists_of_bind_eq_ok h
    obtain ⟨rfl, -⟩ := Prod.mk.inj (Except.ok.inj h)
    exact hP.dot hd
  | .property _ _ _, _, h | .shorthand _ _ _, _, h => by
    obtain ⟨s, -, h⟩ := exists_of_bind_eq_ok h
    obtain ⟨rfl, -⟩ := Prod.mk.inj (Except.ok.inj h)
    exact hP.ofSet _ _
  | .bracketed _ _ _, _, h => by
    obtain ⟨s, -, h⟩ := exists_of_bind_eq_ok h
    obtain ⟨t, -, h⟩ := exists_of_bind_eq_ok h
    obtain ⟨rfl, -⟩ := Prod.mk.inj (Except.ok.inj h)
    exact hP.ofSet _ _
  | .repetition body least most greedy _, hlook, h => by
    obtain ⟨⟨d, m''⟩, hd, h⟩ := exists_of_bind_eq_ok h
    obtain ⟨rfl, -⟩ := Prod.mk.inj (Except.ok.inj h)
    have hbody : body.hasAssertion = true → ∀ look, P (.look look) := hlook
    exact hP.repeat _ _ _ (of_meaning hP hbody hd)
  | .group (.plain changes) body _, hlook, h => by
    obtain ⟨⟨d, m''⟩, hd, h⟩ := exists_of_bind_eq_ok h
    obtain ⟨rfl, -⟩ := Prod.mk.inj (Except.ok.inj h)
    have hbody : body.hasAssertion = true → ∀ look, P (.look look) := hlook
    exact of_meaning hP hbody hd
  | .group (.capture index) body _, hlook, h => by
    obtain ⟨⟨d, m''⟩, hd, h⟩ := exists_of_bind_eq_ok h
    obtain ⟨rfl, -⟩ := Prod.mk.inj (Except.ok.inj h)
    have hbody : body.hasAssertion = true → ∀ look, P (.look look) := hlook
    exact hP.capture index (of_meaning hP hbody hd)
  | .concat parts _, hlook, h => by
    obtain ⟨⟨ds, m''⟩, hds, h⟩ := exists_of_bind_eq_ok h
    obtain ⟨rfl, -⟩ := Prod.mk.inj (Except.ok.inj h)
    exact hP.sequence (of_meanings hP hlook hds)
  | .alternation branches _, hlook, h => by
    obtain ⟨⟨ds, m''⟩, hds, h⟩ := exists_of_bind_eq_ok h
    obtain ⟨rfl, -⟩ := Prod.mk.inj (Except.ok.inj h)
    exact hP.choice (of_meanings hP hlook hds)

theorem of_meanings (hP : Kept P) {m m' : Modes} {es : List Expr} :
    ∀ {trees : List Tree}, (Tree.anyAssertion trees = true → ∀ look, P (.look look)) →
      Tree.meanings m trees = .ok (es, m') → ∀ e ∈ es, P e
  | [], _, h => by
    obtain ⟨rfl, -⟩ := Prod.mk.inj (Except.ok.inj h)
    exact List.forall_mem_nil _
  | tree :: rest, hlook, h => by
    obtain ⟨⟨d, m₁⟩, hd, h⟩ := exists_of_bind_eq_ok h
    obtain ⟨⟨ds, m₂⟩, hds, h⟩ := exists_of_bind_eq_ok h
    obtain ⟨rfl, -⟩ := Prod.mk.inj (Except.ok.inj h)
    refine List.forall_mem_cons.2 ⟨of_meaning hP (fun hfirst => ?_) hd,
      of_meanings hP (fun hrest => ?_) hds⟩
    · exact hlook (Bool.or_eq_true_iff.2 (.inl hfirst))
    · exact hlook (Bool.or_eq_true_iff.2 (.inr hrest))

end

end Expr.Kept

/-- No part of the pattern is an assertion. -/
def assertionFree (p : Pattern) : Bool :=
  match Tree.ofText p.flags.ignoreWhitespace p.text.toList with
  | .ok tree => !tree.hasAssertion
  | .error _ => false

theorem compile_eq_ok {text : String} {flags : Flags} {p : Pattern}
    (h : compile text flags = .ok p) : p.text = text ∧ p.flags = flags := by
  unfold compile at h
  split at h
  · obtain rfl := Except.ok.inj h
    exact ⟨rfl, rfl⟩
  · cases h

/-- A machine is made of the meaning of a tree. -/
theorem exists_of_machineOf {text : List Char} {flags : Flags} {machine : Machine}
    (h : machineOf text flags = .ok machine) :
    ∃ tree e m, Tree.ofText flags.ignoreWhitespace text = .ok tree ∧
      tree.meaning (modesOf flags) = .ok (e, m) ∧ machine = .ofExpr e := by
  unfold machineOf at h
  split at h
  · cases h
  · next e he =>
    obtain ⟨tree, htree, he⟩ := exists_of_bind_eq_ok he
    obtain ⟨⟨d, m⟩, hd, he⟩ := exists_of_bind_eq_ok he
    obtain rfl := Except.ok.inj he
    split at h
    · cases h
    · exact ⟨tree, d, m, htree, hd, (Except.ok.inj h).symm⟩

/-- The machine of a pattern without assertions looks at nothing but what it takes. -/
theorem blind_of_assertionFree {p : Pattern} (h : p.assertionFree) : p.machine.Blind := by
  obtain ⟨tree, e, m, htree, hmeaning, hmachine⟩ := exists_of_machineOf p.compiles
  have hfree : tree.hasAssertion = false := by simpa [assertionFree, htree] using h
  rw [hmachine]
  exact (Expr.kept_lookFree.of_meaning (by simp [hfree]) hmeaning).blind_ofExpr

end Pattern

namespace Rule

variable {S : Type} {r : Rule S}

/-- What comes before a text does not matter. -/
theorem reach_eq_of_assertionFree (h : r.pattern.assertionFree) (before before' : Option Char)
    (text : List Char) : r.reach before text = r.reach before' text := by
  have hblind := Pattern.blind_of_assertionFree h
  rw [reach, reach, Pattern.matchAhead, Pattern.matchAhead, hblind.match?_eq before before']

/-- Of a text, a rule takes what it takes of a front part, or more than this part. -/
theorem reach_append (h : r.pattern.assertionFree) (before : Option Char) (a b : List Char) :
    r.reach before (a ++ b) = r.reach before a ∨
      ∃ n, r.reach before (a ++ b) = some n ∧ a.length < n := by
  have hblind := Pattern.blind_of_assertionFree h
  rw [reach, reach, Pattern.matchAhead, Pattern.matchAhead]
  obtain heq | ⟨n, hn, hlt⟩ := hblind.match?_append before a b
  · exact .inl (by rw [heq])
  · refine .inr ⟨n, ?_, hlt⟩
    rw [hn, Option.filter_some, if_pos (by simpa using Nat.zero_lt_of_lt hlt)]

end Rule

end ScanRules
