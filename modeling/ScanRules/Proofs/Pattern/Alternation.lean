import ScanRules.Proofs.Pattern.Bare
import ScanRules.Proofs.Pattern.Choice
import ScanRules.Proofs.Pattern.Inline

/-!
# Patterns with alternatives

A pattern that is written as two others side by side, in groups or without, matches what the first
of them does that matches, unless a common beginning is drawn in front of them that can match in
more than one way.

- `Tree.Side`, `Tree.Keeps`, `Pattern.Alternates`: how the pattern is written.
- `Tree.branches`, `Pattern.Unmixed`: what is drawn in front can match in one way only. Nothing is
  where one of the alternatives is a numbered group (`Pattern.unmixed_of_mem_capture`).
- `Pattern.matchAt_alternates`: the match of such a pattern.
- `Pattern.exists_alternates_ne`: a common beginning that makes a difference.
-/

namespace ScanRules.Pattern

open Pattern.Expr Machine

variable {m m' m₁ : Modes} {a x : Expr} {t side : Tree} {p q r : Pattern}

/-! ## How alternatives are written -/

/-- A group that leaves the switches as they are. -/
def GroupKind.Neutral : GroupKind → Prop
  | .capture _ => True
  | .plain settings => settings = []

/-- A side of alternatives on which a tree stands, in a group or alone. The groups in the tree may
have other numbers there. -/
inductive Tree.Side (side t : Tree) : Prop
  | grouped (kind : GroupKind) (n : Nat) : kind.Neutral →
    side.bare 0 = .group kind (t.bare n) nowhere → Side side t
  | alone (n : Nat) : side.bare 0 = t.bare n → Side side t

/-- Behind a tree the modes are the same as in front of it: no settings in it last longer. -/
def Tree.Keeps (m : Modes) (t : Tree) : Prop :=
  ∀ e m', t.meaning m = .ok (e, m') → m' = m

/-- The pattern is read as a tree. -/
def Reads (p : Pattern) (tree : Tree) : Prop :=
  Tree.ofText p.flags.ignoreWhitespace p.text.toList = .ok tree

/-- The third pattern is written as the alternatives of the first and the second, in this order. The
settings in the first one do not last into the second. -/
structure Alternates (p q r : Pattern) : Prop where
  left_flags : p.flags = r.flags
  right_flags : q.flags = r.flags
  trees : ∃ t u left right extent, p.Reads t ∧ q.Reads u ∧
    r.Reads (.alternation [left, right] extent) ∧ left.Side t ∧ right.Side u ∧
      left.Keeps (modesOf r.flags)

/-- The branches of alternatives before they are simplified together. -/
def Tree.branches (m : Modes) : Tree → List Expr
  | .alternation sides _ =>
    match Tree.meanings m sides with
    | .ok (es, _) => es
    | .error _ => []
  | _ => []

/-- Nothing is drawn in front of the alternatives of a pattern but what can match in one way
only. -/
def Unmixed (p : Pattern) : Prop :=
  ∀ tree, p.Reads tree → Expr.Unmixed (tree.branches (modesOf p.flags))

/-- Settings in a group do not last longer than the group. -/
theorem Tree.keeps_group (m : Modes) (kind : GroupKind) (body : Tree) (extent : Extent) :
    (Tree.group kind body extent).Keeps m := by
  intro e m' h
  cases kind with
  | capture i | plain settings =>
    obtain ⟨⟨d, m₁⟩, -, h⟩ := exists_of_bind_eq_ok h
    exact (Prod.mk.inj (Except.ok.inj h)).2.symm

/-- The machine of a pattern is that of the meaning of its tree. -/
theorem Reads.exists_meaning {tree : Tree} (h : p.Reads tree) :
    ∃ e m, tree.meaning (modesOf p.flags) = .ok (e, m) ∧ p.machine = .ofExpr e := by
  obtain ⟨tree', e, m, htree, hmeaning, hmachine⟩ := exists_of_machineOf p.compiles
  obtain rfl := Except.ok.inj (h.symm.trans htree)
  exact ⟨e, m, hmeaning, hmachine⟩

/-- A numbered group stays a numbered group. -/
theorem Tree.exists_capture_of_mem {i : Nat} {body : Tree} {extent : Extent} {trees : List Tree}
    {es : List Expr} (h : Tree.meanings m trees = .ok (es, m'))
    (hmem : .group (.capture i) body extent ∈ trees) : ∃ e, Expr.capture i e ∈ es := by
  induction trees generalizing m es with
  | nil => cases hmem
  | cons tree rest ih =>
    obtain ⟨⟨d, m₁⟩, hd, h⟩ := exists_of_bind_eq_ok h
    obtain ⟨⟨ds, m₂⟩, hds, h⟩ := exists_of_bind_eq_ok h
    obtain ⟨rfl, rfl⟩ := Prod.mk.inj (Except.ok.inj h)
    rcases List.mem_cons.1 hmem with rfl | hmem
    · obtain ⟨⟨e, m₃⟩, -, hd⟩ := exists_of_bind_eq_ok hd
      obtain ⟨rfl, rfl⟩ := Prod.mk.inj (Except.ok.inj hd)
      exact ⟨e, List.mem_cons_self⟩
    · obtain ⟨e, he⟩ := ih hds hmem
      exact ⟨e, List.mem_cons_of_mem _ he⟩

/-- Nothing is drawn in front of alternatives one of which is a numbered group. -/
theorem unmixed_of_mem_capture {sides : List Tree} {extent extent' : Extent} {i : Nat} {body : Tree}
    (h : p.Reads (.alternation sides extent))
    (hmem : .group (.capture i) body extent' ∈ sides) : p.Unmixed := by
  intro tree htree
  obtain rfl := Except.ok.inj (htree.symm.trans h)
  obtain ⟨e, m, he, -⟩ := h.exists_meaning
  obtain ⟨⟨es, m₁⟩, hes, -⟩ := exists_of_bind_eq_ok he
  obtain ⟨d, hd⟩ := Tree.exists_capture_of_mem hes hmem
  rw [Tree.branches, hes]
  exact Expr.unmixed_of_mem_capture hd

/-! ## What they match -/

/-- A side has the machine of the tree that stands there. -/
theorem Tree.Side.ofExpr_eq (h : side.Side t) (ht : t.meaning m = .ok (x, m₁))
    (hside : side.meaning m = .ok (a, m')) : ofExpr a = ofExpr x := by
  have hside' : (side.bare 0).meaning m = .ok (a.raised 0, m') := Tree.meaning_bare hside
  have hbare (n : Nat) : (t.bare n).meaning m = .ok (x.raised n, m₁) := Tree.meaning_bare ht
  -- a group adds nothing, apart from its number
  obtain ⟨n, y, m₂, hy, hmachine⟩ : ∃ n y m₂, (side.bare 0).meaning m = .ok (y, m₂) ∧
      ofExpr y = ofExpr (x.raised n) := by
    cases h with
    | alone n heq => exact ⟨n, _, _, heq ▸ hbare n, rfl⟩
    | grouped kind n hneutral heq =>
      rw [heq]
      cases kind with
      | capture i =>
        rw [Tree.meaning, hbare n]
        exact ⟨n, _, _, rfl, rfl⟩
      | plain settings =>
        obtain rfl : settings = [] := hneutral
        have hsame : m.apply [] = m := rfl
        rw [Tree.meaning, hsame, hbare n]
        exact ⟨n, _, _, rfl, rfl⟩
  rw [hside'] at hy
  obtain ⟨rfl, rfl⟩ := Prod.mk.inj (Except.ok.inj hy)
  exact (ofExpr_raised a 0).symm.trans (hmachine.trans (ofExpr_raised x n))

/-- The machine of alternatives matches what the first of the two does that matches at all. -/
theorem Alternates.match?_eq (h : Alternates p q r) (hunmixed : r.Unmixed) (before : Option Char)
    (text : List Char) :
    r.machine.match? before text =
      (p.machine.match? before text).or (q.machine.match? before text) := by
  obtain ⟨t, u, left, right, extent, hp, hq, hr, hleft, hright, hkeeps⟩ := h.trees
  obtain ⟨x, m₁, hx, hpx⟩ := hp.exists_meaning
  obtain ⟨y, m₂, hy, hqy⟩ := hq.exists_meaning
  obtain ⟨e, m₃, he, hre⟩ := hr.exists_meaning
  rw [h.left_flags] at hx
  rw [h.right_flags] at hy
  obtain ⟨⟨es, m₄⟩, hes, he⟩ := exists_of_bind_eq_ok he
  obtain ⟨rfl, rfl⟩ := Prod.mk.inj (Except.ok.inj he)
  have hbranches := hunmixed _ hr
  rw [Tree.branches, hes] at hbranches
  obtain ⟨⟨a, m₅⟩, ha, hes⟩ := exists_of_bind_eq_ok hes
  obtain ⟨⟨bs, m₆⟩, hbs, hes⟩ := exists_of_bind_eq_ok hes
  obtain ⟨rfl, rfl⟩ := Prod.mk.inj (Except.ok.inj hes)
  obtain ⟨⟨b, m₇⟩, hb, hbs⟩ := exists_of_bind_eq_ok hbs
  obtain ⟨rfl, rfl⟩ := Prod.mk.inj (Except.ok.inj hbs)
  -- the first side leaves the modes as they are, and so the second one is read in the same
  obtain rfl := hkeeps a m₅ ha
  have hax := hleft.ofExpr_eq hx ha
  have hby := hright.ofExpr_eq hy hb
  have hsettled : ∀ e ∈ [a, b], e.Settled := List.forall_mem_cons.2
    ⟨settled_of_meaning ha, List.forall_mem_singleton.2 (settled_of_meaning hb)⟩
  rw [hre, hpx, hqy, match?_choice hsettled hbranches, List.findSome?_cons, List.findSome?_cons,
    List.findSome?_nil, hax, hby]
  cases (ofExpr x).match? before text with
  | some n => rfl
  | none => cases (ofExpr y).match? before text <;> rfl

/-- **Alternatives are preferred in order**: where nothing is drawn in front of them but what can
match in one way only, a pattern that is written as two others side by side matches what the first
one does, if it matches, and else what the second one does. -/
theorem matchAt_alternates (h : Alternates p q r) (hunmixed : r.Unmixed) (haystack : String)
    (offset : Nat) :
    r.matchAt haystack offset = (p.matchAt haystack offset).or (q.matchAt haystack offset) := by
  rw [matchAt_eq_machine, matchAt_eq_machine, matchAt_eq_machine]
  unfold Machine.matchAt
  cases seek? none haystack.toList offset with
  | none => rfl
  | some place =>
    obtain ⟨before, rest⟩ := place
    simp only [Option.bind_eq_bind, Option.bind_some, h.match?_eq hunmixed]
    cases p.machine.match? before rest <;> rfl

theorem reads_of_compile {text : String} {flags : Flags} {tree : Tree}
    (h : compile text flags = .ok p)
    (htree : Tree.ofText flags.ignoreWhitespace text.toList = .ok tree) : p.Reads tree := by
  obtain ⟨rfl, rfl⟩ := compile_eq_ok h
  exact htree

/-- A shorter match of the first side is preferred to a longer one of the second, which stands in a
group and has another number for its own. The dot that both begin with is drawn in front of them. -/
theorem matchAt_alternates_lazy :
    ∃ p q r, compile ".(a)*?" .empty = .ok p ∧ compile ".(a)b" .empty = .ok q ∧
      compile ".(a)*?|(?:.(a)b)" .empty = .ok r ∧ Alternates p q r ∧ r.Unmixed ∧
      p.matchAt "xab" 0 = some ⟨0, 1⟩ ∧ q.matchAt "xab" 0 = some ⟨0, 3⟩ ∧
      r.matchAt "xab" 0 = (p.matchAt "xab" 0).or (q.matchAt "xab" 0) := by
  obtain ⟨p, hp, hpm⟩ : ∃ p, compile ".(a)*?" .empty = .ok p ∧
      decide (p.matchAt "xab" 0 = some ⟨0, 1⟩) = true := exists_compile (by decide +kernel)
  obtain ⟨q, hq, hqm⟩ : ∃ q, compile ".(a)b" .empty = .ok q ∧
      decide (q.matchAt "xab" 0 = some ⟨0, 3⟩) = true := exists_compile (by decide +kernel)
  obtain ⟨r, hr, -⟩ : ∃ r, compile ".(a)*?|(?:.(a)b)" .empty = .ok r ∧ true :=
    exists_compile (by decide +kernel)
  have hflags := (compile_eq_ok hr).2
  have hreads : r.Reads (.alternation
      [.concat [.dot ⟨16, 15⟩,
          .repetition (.group (.capture 1) (.literal ⟨'a', false, ⟨14, 13⟩⟩) ⟨15, 12⟩) 0 none false
            ⟨15, 10⟩] ⟨16, 10⟩,
       .group (.plain [])
        (.concat [.dot ⟨6, 5⟩, .group (.capture 2) (.literal ⟨'a', false, ⟨4, 3⟩⟩) ⟨5, 2⟩,
          .literal ⟨'b', false, ⟨2, 1⟩⟩] ⟨6, 1⟩) ⟨9, 0⟩]
      ⟨16, 0⟩) := reads_of_compile hr rfl
  have hkeeps : Tree.Keeps (modesOf r.flags) (.concat [.dot ⟨16, 15⟩,
      .repetition (.group (.capture 1) (.literal ⟨'a', false, ⟨14, 13⟩⟩) ⟨15, 12⟩) 0 none false
        ⟨15, 10⟩] ⟨16, 10⟩) := by
    rw [hflags]
    intro e m' h
    cases h
    rfl
  have halternates : Alternates p q r :=
    ⟨(compile_eq_ok hp).2.trans hflags.symm, (compile_eq_ok hq).2.trans hflags.symm,
      _, _, _, _, _, reads_of_compile hp rfl, reads_of_compile hq rfl, hreads,
      .alone 0 rfl, .grouped (.plain []) 1 rfl rfl, hkeeps⟩
  have hunmixed : r.Unmixed := by
    intro tree htree
    obtain rfl := Except.ok.inj (htree.symm.trans hreads)
    rw [hflags]
    intro shared remainders hlift
    cases hlift
    rfl
  exact ⟨p, q, r, hp, hq, hr, halternates, hunmixed, of_decide_eq_true hpm, of_decide_eq_true hqm,
    matchAt_alternates halternates hunmixed "xab" 0⟩

/-- A common beginning that makes a difference: `a?` is drawn in front of both sides, and what comes
behind it is tried with `a` taken before it is tried without. So the second side is preferred,
although the first one matches. -/
theorem exists_alternates_ne :
    ∃ p q r, compile "a?a" .empty = .ok p ∧ compile "a?bc" .empty = .ok q ∧
      compile "(?:a?a)|(?:a?bc)" .empty = .ok r ∧ Alternates p q r ∧
      p.matchAt "abc" 0 = some ⟨0, 1⟩ ∧ r.matchAt "abc" 0 = some ⟨0, 3⟩ := by
  obtain ⟨p, hp, hpm⟩ : ∃ p, compile "a?a" .empty = .ok p ∧
      decide (p.matchAt "abc" 0 = some ⟨0, 1⟩) = true := exists_compile (by decide +kernel)
  obtain ⟨q, hq, -⟩ : ∃ q, compile "a?bc" .empty = .ok q ∧ true :=
    exists_compile (by decide +kernel)
  obtain ⟨r, hr, hrm⟩ : ∃ r, compile "(?:a?a)|(?:a?bc)" .empty = .ok r ∧
      decide (r.matchAt "abc" 0 = some ⟨0, 3⟩) = true := exists_compile (by decide +kernel)
  have hflags := (compile_eq_ok hr).2
  refine ⟨p, q, r, hp, hq, hr, ⟨?_, ?_, ?_⟩, of_decide_eq_true hpm, of_decide_eq_true hrm⟩
  · exact (compile_eq_ok hp).2.trans hflags.symm
  · exact (compile_eq_ok hq).2.trans hflags.symm
  · exact ⟨_, _, .group (.plain []) _ _, _, _, reads_of_compile hp rfl, reads_of_compile hq rfl,
      reads_of_compile hr rfl, .grouped (.plain []) 0 rfl rfl, .grouped (.plain []) 0 rfl rfl,
      Tree.keeps_group _ _ _ _⟩

end ScanRules.Pattern
