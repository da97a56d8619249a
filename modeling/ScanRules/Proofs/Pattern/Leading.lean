import ScanRules.Pattern.Reader
import ScanRules.Proofs.Pattern.Assertion

/-!
# Reading behind something

A pattern is read in the same way where something has been read before it. What comes of it is the
same tree with `front`, which has been read before, in front of its first branch.

- `Tree.Fronted`, `Tree.Led`: a tree with `front` in front of it, or of the first of its branches.
- `Level.Led`, `OpenGroup.Led`, `Reading.Led`: the same for what has been read so far. Only the
  outermost level differs; the levels inside of it are the same.
- `Reading.Led.readItem`, `Reading.Led.readItems`: steps of reading keep this.
- `Reading.Led.body`: and so it holds of the trees in the end.
-/

namespace ScanRules.Pattern

variable {front : Tree}

/-- The second tree is the first one with `front` in front of it. -/
inductive Tree.Fronted (front : Tree) : Tree → Tree → Prop
  | empty (e : Extent) : Fronted front (.empty e) front
  | single (t : Tree) (e : Extent) : Fronted front t (.concat [front, t] e)
  | concat (ts : List Tree) (e e' : Extent) :
    Fronted front (.concat ts e) (.concat (front :: ts) e')

/-- The second tree is the first one with `front` in front of it, or in front of its first
branch. -/
inductive Tree.Led (front : Tree) : Tree → Tree → Prop
  | whole {t t' : Tree} : Fronted front t t' → Led front t t'
  | branch {t t' : Tree} (more : List Tree) (e e' : Extent) : Fronted front t t' →
    Led front (.alternation (t :: more) e) (.alternation (t' :: more) e')

/-! ## Levels -/

/-- What has been read of a group: its finished branches and the items of the current one, both with
the last one first, and the place where the current branch starts. -/
structure Level where
  branches : List Tree
  items : List Tree
  itemsStart : Nat

/-- What has been read of the group that an open one interrupts. -/
def OpenGroup.level (g : OpenGroup) : Level := ⟨g.branches, g.items, g.itemsStart⟩

/-- What has been read of the current group. -/
def Reading.level (r : Reading) : Level := ⟨r.branches, r.items, r.itemsStart⟩

/-- The second level is the first one with `front` in front of its first branch, which is still the
current one or has been finished. -/
inductive Level.Led (front : Tree) : Level → Level → Prop
  | current (items : List Tree) (start start' : Nat) :
    Led front ⟨[], items, start⟩ ⟨[], items ++ [front], start'⟩
  | finished {t t' : Tree} (branches items : List Tree) (start : Nat) : Tree.Fronted front t t' →
    Led front ⟨branches ++ [t], items, start⟩ ⟨branches ++ [t'], items, start⟩

theorem Level.Led.pop {l l' : Level} (h : l.Led front l') {item : Tree} {items : List Tree}
    (hitems : l.items = item :: items) :
    ∃ items', l'.items = item :: items' ∧
      Level.Led front ⟨l.branches, items, l.itemsStart⟩ ⟨l'.branches, items', l'.itemsStart⟩ := by
  cases h with
  | current all start start' =>
    obtain rfl : all = item :: items := hitems
    exact ⟨items ++ [front], rfl, .current items start start'⟩
  | finished branches all start hfront =>
    obtain rfl : all = item :: items := hitems
    exact ⟨items, rfl, .finished branches items start hfront⟩

theorem Level.Led.push {l l' : Level} (h : l.Led front l') (item : Tree) :
    Level.Led front ⟨l.branches, item :: l.items, l.itemsStart⟩
      ⟨l'.branches, item :: l'.items, l'.itemsStart⟩ := by
  cases h with
  | current items start start' => exact .current (item :: items) start start'
  | finished branches items start hfront => exact .finished branches (item :: items) start hfront

/-- The same of open groups: only the outermost one differs. -/
inductive OpenGroup.Led (front : Tree) : List OpenGroup → List OpenGroup → Prop
  | outermost {g g' : OpenGroup} : g.level.Led front g'.level → g'.kind = g.kind →
    g'.start = g.start → g'.verbose = g.verbose → Led front [g] [g']
  | inside (g : OpenGroup) {outer outer' : List OpenGroup} : Led front outer outer' →
    Led front (g :: outer) (g :: outer')

/-- The same of readings. -/
inductive Reading.Led (front : Tree) : Reading → Reading → Prop
  | outermost {r r' : Reading} : r.outer = [] → r'.outer = [] → r.level.Led front r'.level →
    r'.verbose = r.verbose → r'.names = r.names → r'.captures = r.captures → Led front r r'
  | inside (r : Reading) {outer' : List OpenGroup} : OpenGroup.Led front r.outer outer' →
    Led front r { r with outer := outer' }

namespace Reading

variable {r r' : Reading}

/-- The first branch has `front` in front of it, be it the current one or a finished one. -/
theorem fronted_of_level (h : r.level.Led front r'.level) (stop : Nat) :
    (r.branches = [] ∧ r'.branches = [] ∧
        Tree.Fronted front (r.sequence stop) (r'.sequence stop)) ∨
      ∃ branches t t', r.branches = branches ++ [t] ∧ r'.branches = branches ++ [t'] ∧
        Tree.Fronted front t t' ∧ r'.sequence stop = r.sequence stop := by
  obtain ⟨outer, branches, branchesStart, items, itemsStart, verbose, names, captures⟩ := r
  obtain ⟨outer', branches', branchesStart', items', itemsStart', _, _, _⟩ := r'
  simp only [level] at h
  cases h with
  | current =>
    refine .inl ⟨rfl, rfl, ?_⟩
    simp only [sequence, List.reverse_append, List.reverse_singleton, List.singleton_append]
    match items.reverse with
    | [] => exact .empty _
    | [t] => exact .single t _
    | _ :: _ :: _ => exact .concat _ _ _
  | finished branches _ _ hfront => exact .inr ⟨branches, _, _, rfl, rfl, hfront, rfl⟩

/-- With finished branches, the inside of a group is alternatives. -/
theorem body_of_branches {branches : List Tree} {t : Tree} (h : r.branches = branches ++ [t])
    (stop : Nat) : r.body stop =
      .alternation (t :: (branches.reverse ++ [r.sequence stop])) ⟨r.branchesStart, stop⟩ := by
  unfold body
  rw [h]
  cases branches with
  | nil => rfl
  | cons b more => simp

/-- A repetition mark takes the last item, which has to be one that can be repeated. -/
theorem takeItem_eq_ok_iff {text : List Char} {item : Tree} {q : Reading} :
    r.takeItem text = .ok (item, q) ↔ ∃ items, r.items = item :: items ∧
      (item matches .empty _ | .settings _ _) = false ∧ q = { r with items } := by
  constructor
  · intro hq
    unfold takeItem at hq
    split at hq
    · cases hq
    · cases hq
    · cases hq
    · next d items hempty hsettings hitems =>
      obtain ⟨rfl, rfl⟩ := Prod.mk.inj (Except.ok.inj hq)
      refine ⟨items, hitems, ?_, rfl⟩
      cases d with
      | empty e => exact (hempty e rfl).elim
      | settings s e => exact (hsettings s e rfl).elim
      | _ => rfl
  · rintro ⟨items, hitems, hrepeats, rfl⟩
    unfold takeItem
    rw [hitems]
    cases item with
    | empty e => cases hrepeats
    | settings s e => cases hrepeats
    | _ => rfl

namespace Led

theorem verbose_eq (h : r.Led front r') : r'.verbose = r.verbose := by
  cases h with
  | outermost _ _ _ hverbose _ _ => exact hverbose
  | inside _ => rfl

theorem names_eq (h : r.Led front r') : r'.names = r.names := by
  cases h with
  | outermost _ _ _ _ hnames _ => exact hnames
  | inside _ => rfl

theorem captures_eq (h : r.Led front r') : r'.captures = r.captures := by
  cases h with
  | outermost _ _ _ _ _ hcaptures => exact hcaptures
  | inside _ => rfl

theorem setVerbose (h : r.Led front r') (verbose : Bool) :
    ({ r with verbose } : Reading).Led front { r' with verbose } := by
  cases h with
  | outermost hr hr' hlevel _ hnames hcaptures =>
    exact .outermost hr hr' hlevel rfl hnames hcaptures
  | inside houter => exact .inside { r with verbose } houter

theorem capture (h : r.Led front r') (names : GroupNames) (captures : Nat) :
    ({ r with names, captures } : Reading).Led front { r' with names, captures } := by
  cases h with
  | outermost hr hr' hlevel hverbose _ _ => exact .outermost hr hr' hlevel hverbose rfl rfl
  | inside houter => exact .inside { r with names, captures } houter

theorem push (h : r.Led front r') (item : Tree) : (r.push item).Led front (r'.push item) := by
  cases h with
  | outermost hr hr' hlevel hverbose hnames hcaptures =>
    exact .outermost hr hr' (hlevel.push item) hverbose hnames hcaptures
  | inside houter => exact .inside (r.push item) houter

theorem nextBranch (h : r.Led front r') (rest : List Char) :
    (r.nextBranch rest).Led front (r'.nextBranch rest) := by
  cases h with
  | inside houter => exact .inside (r.nextBranch rest) houter
  | outermost hr hr' hlevel hverbose hnames hcaptures =>
    refine .outermost hr hr' ?_ hverbose hnames hcaptures
    rcases fronted_of_level hlevel (rest.length + 1) with
      ⟨hbranches, hbranches', hfront⟩ | ⟨branches, t, t', hbranches, hbranches', hfront, heq⟩
    · simp only [level, Reading.nextBranch, hbranches, hbranches']
      exact .finished [] [] rest.length hfront
    · simp only [level, Reading.nextBranch, hbranches, hbranches', heq]
      exact .finished (_ :: branches) [] rest.length hfront

theorem openGroup (h : r.Led front r') (kind : GroupKind) (start : Nat) (verbose : Bool)
    (rest : List Char) :
    (r.openGroup kind start verbose rest).Led front (r'.openGroup kind start verbose rest) := by
  cases h with
  | inside houter => exact .inside (r.openGroup kind start verbose rest) (.inside _ houter)
  | outermost hr hr' hlevel hverbose hnames hcaptures =>
    obtain ⟨_, branches, branchesStart, items, itemsStart, _, _, _⟩ := r
    obtain ⟨_, branches', branchesStart', items', itemsStart', _, _, _⟩ := r'
    subst hr hr' hverbose hnames hcaptures
    exact .inside _ (.outermost hlevel rfl rfl rfl)

theorem closeGroup (h : r.Led front r') {rest : List Char} {q : Reading}
    (hq : r.closeGroup rest = .ok q) :
    ∃ q', r'.closeGroup rest = .ok q' ∧ q.Led front q' := by
  cases h with
  | outermost hr _ _ _ _ _ =>
    -- there is no group to close at the outermost level
    rw [Reading.closeGroup, hr] at hq
    cases hq
  | @inside outer' houter =>
    obtain ⟨outer, branches, branchesStart, items, itemsStart, verbose, names, captures⟩ := r
    simp only at houter
    cases houter with
    | inside g houter =>
      obtain rfl := Except.ok.inj hq
      exact ⟨_, rfl, .inside _ houter⟩
    | @outermost g g' hlevel hkind hstart hverbose =>
      obtain rfl := Except.ok.inj hq
      refine ⟨_, rfl, .outermost rfl rfl ?_ hverbose rfl rfl⟩
      rw [hkind, hstart]
      exact hlevel.push _

theorem takeItem (h : r.Led front r') {text : List Char} {item : Tree} {q : Reading}
    (hq : r.takeItem text = .ok (item, q)) :
    ∃ q', r'.takeItem text = .ok (item, q') ∧ q.Led front q' := by
  obtain ⟨items, hitems, hrepeats, rfl⟩ := takeItem_eq_ok_iff.1 hq
  cases h with
  | outermost hr hr' hlevel hverbose hnames hcaptures =>
    obtain ⟨items', hitems', hlevel'⟩ := hlevel.pop hitems
    exact ⟨_, takeItem_eq_ok_iff.2 ⟨items', hitems', hrepeats, rfl⟩,
      .outermost hr hr' hlevel' hverbose hnames hcaptures⟩
  | inside houter =>
    exact ⟨_, takeItem_eq_ok_iff.2 ⟨items, hitems, hrepeats, rfl⟩, .inside _ houter⟩

theorem body (h : r.Led front r') (hr : r.outer = []) (stop : Nat) :
    r'.outer = [] ∧ Tree.Led front (r.body stop) (r'.body stop) := by
  cases h with
  | inside houter => rw [hr] at houter; cases houter
  | outermost _ hr' hlevel =>
    refine ⟨hr', ?_⟩
    rcases fronted_of_level hlevel stop with
      ⟨hbranches, hbranches', hfront⟩ | ⟨branches, t, t', hbranches, hbranches', hfront, heq⟩
    · simp only [Reading.body, hbranches, hbranches']
      exact .whole hfront
    · rw [body_of_branches hbranches, body_of_branches hbranches', heq]
      exact .branch _ _ _ hfront

/-! ### Steps of reading -/

variable {rest remainder : List Char} {q : Reading}

theorem readMark (h : r.Led front r') {least : Nat} {most : Option Nat} {mark : Char}
    (hq : readMark r least most mark rest = .ok (q, remainder)) :
    ∃ q', Pattern.readMark r' least most mark rest = .ok (q', remainder) ∧ q.Led front q' := by
  obtain ⟨⟨item, p⟩, hp, hq⟩ := exists_of_bind_eq_ok hq
  obtain ⟨rfl, rfl⟩ := Prod.mk.inj (Except.ok.inj hq)
  obtain ⟨p', hp', hled⟩ := h.takeItem hp
  exact ⟨_, by rw [Pattern.readMark, hp']; rfl, hled.push _⟩

theorem readCounted (h : r.Led front r') (hq : readCounted r rest = .ok (q, remainder)) :
    ∃ q', Pattern.readCounted r' rest = .ok (q', remainder) ∧ q.Led front q' := by
  obtain ⟨⟨item, p⟩, hp, hq⟩ := exists_of_bind_eq_ok hq
  obtain ⟨p', hp', hled⟩ := h.takeItem hp
  unfold Pattern.readCounted
  simp only [hp', bind, Except.bind, hled.verbose_eq] at hq ⊢
  -- what the braces hold is read from the text alone
  split at hq
  · cases hq
  · next inside hinside =>
    split at hq
    · cases hq
    · next counts hcounts =>
      split at hq
      · next afterBrace hbrace =>
        split at hq
        · cases hq
        · next hvalid =>
          obtain ⟨rfl, rfl⟩ := Prod.mk.inj (Except.ok.inj hq)
          exact ⟨_, if_neg hvalid, hled.push _⟩
      · cases hq

theorem readGroup (h : r.Led front r') (hq : readGroup r rest = .ok (q, remainder)) :
    ∃ q', Pattern.readGroup r' rest = .ok (q', remainder) ∧ q.Led front q' := by
  obtain ⟨⟨opening, after⟩, hopening, hq⟩ := exists_of_bind_eq_ok hq
  unfold Pattern.readGroup
  rw [h.verbose_eq, h.names_eq, hopening]
  cases opening with
  | settings settings =>
    obtain ⟨rfl, rfl⟩ := Prod.mk.inj (Except.ok.inj hq)
    exact ⟨_, rfl, (h.push _).setVerbose _⟩
  | plain settings =>
    obtain ⟨rfl, rfl⟩ := Prod.mk.inj (Except.ok.inj hq)
    exact ⟨_, rfl, h.openGroup _ _ _ _⟩
  | capture names =>
    obtain ⟨rfl, rfl⟩ := Prod.mk.inj (Except.ok.inj hq)
    refine ⟨_, rfl, ?_⟩
    rw [h.captures_eq]
    have hnext := (h.capture names (r.captures + 1)).openGroup (.capture (r.captures + 1))
      (rest.length + 1) r.verbose after
    simpa only [h.verbose_eq] using hnext

theorem readItem (h : r.Led front r') {c : Char} (hq : readItem r c rest = .ok (q, remainder)) :
    ∃ q', Pattern.readItem r' c rest = .ok (q', remainder) ∧ q.Led front q' := by
  unfold Pattern.readItem at hq ⊢
  split at hq
  · exact h.readGroup hq
  · obtain ⟨p, hp, hq⟩ := exists_of_bind_eq_ok hq
    obtain ⟨rfl, rfl⟩ := Prod.mk.inj (Except.ok.inj hq)
    obtain ⟨p', hp', hled⟩ := h.closeGroup hp
    exact ⟨p', by rw [hp']; rfl, hled⟩
  · obtain ⟨rfl, rfl⟩ := Prod.mk.inj (Except.ok.inj hq)
    exact ⟨_, rfl, h.nextBranch _⟩
  · obtain ⟨⟨tree, after⟩, htree, hq⟩ := exists_of_bind_eq_ok hq
    obtain ⟨rfl, rfl⟩ := Prod.mk.inj (Except.ok.inj hq)
    rw [h.verbose_eq, htree]
    exact ⟨_, rfl, h.push _⟩
  · exact h.readMark hq
  · exact h.readMark hq
  · exact h.readMark hq
  · exact h.readCounted hq
  · obtain ⟨⟨tree, after⟩, htree, hq⟩ := exists_of_bind_eq_ok hq
    obtain ⟨rfl, rfl⟩ := Prod.mk.inj (Except.ok.inj hq)
    rw [h.verbose_eq, htree]
    exact ⟨_, rfl, h.push _⟩
  · obtain ⟨rfl, rfl⟩ := Prod.mk.inj (Except.ok.inj hq)
    exact ⟨_, rfl, h.push _⟩
  · obtain ⟨rfl, rfl⟩ := Prod.mk.inj (Except.ok.inj hq)
    exact ⟨_, rfl, h.push _⟩
  · obtain ⟨rfl, rfl⟩ := Prod.mk.inj (Except.ok.inj hq)
    exact ⟨_, rfl, h.push _⟩
  · obtain ⟨rfl, rfl⟩ := Prod.mk.inj (Except.ok.inj hq)
    exact ⟨_, by simp [*], h.push _⟩

/-- Reading to the end of a text, by induction on the text. -/
theorem readItems (h : r.Led front r') {skip : Nat} (hq : readItems r skip rest = .ok q) :
    ∃ q', Pattern.readItems r' skip rest = .ok q' ∧ q.Led front q' := by
  fun_induction Pattern.readItems r skip rest generalizing r' with
  | case1 r skip =>
    obtain rfl := Except.ok.inj hq
    exact ⟨r', by cases skip <;> rfl, h⟩
  | case2 r skip c rest ih => exact ih h hq
  | case3 r c rest hnil =>
    obtain rfl := Except.ok.inj hq
    rw [Pattern.readItems, h.verbose_eq, hnil]
    exact ⟨r', rfl, h⟩
  | case4 r c rest d after hskip hlt ih =>
    rw [Pattern.readItems, h.verbose_eq, hskip]
    simp only [if_pos hlt]
    exact ih h hq
  | case5 r c rest d after hskip hlt fault hfault => cases hq
  | case6 r c rest d after hskip hlt p remainder hp ih =>
    obtain ⟨p', hp', hled⟩ := h.readItem hp
    rw [Pattern.readItems, h.verbose_eq, hskip]
    simp only [if_neg hlt, hp']
    exact ih hled hq

end Led

end Reading

end ScanRules.Pattern
