import ScanRules.Pattern.Machine.Build
import ScanRules.Proofs.Pattern.Parts

/-!
# Building in another place

The states that an expression adds to a machine refer to each other and to the state that follows
them. They are the same wherever they are added, apart from their numbers.

- `Builder.Inside`, `Builder.Moved`: the same states have been added to two builders.
- `Builder.Alike`: the same states and a start among them, and how this carries over from one step
  of building to the next (`Builder.Alike.bind`).
- `Builder.Relocates`, `Expr.relocates_build`: adding an expression does the same in any place.
-/

namespace ScanRules.Pattern

namespace Builder

variable {σ : Nat → Nat} {E E' : Nat → Prop} {b c b' c' b'' c'' : Builder} {s : State} {j : Nat}
  {r r' : Nat × Builder} {body : Nat → Builder → Nat × Builder}

/-- The numbers give the states behind one builder in the place of those behind the other. -/
def Fits (σ : Nat → Nat) (b c : Builder) : Prop := ∀ i, σ (b.size + i) = c.size + i

/-- The number is that of an exit, or of a state that a builder has besides those of an earlier
one. -/
def Inside (E : Nat → Prop) (b b' : Builder) (j : Nat) : Prop := E j ∨ b.size ≤ j ∧ j < b'.size

/-- The same states have been added to two builders, apart from the numbers that they refer to. They
refer to each other and to exits. -/
def Moved (σ : Nat → Nat) (E : Nat → Prop) (b c b' c' : Builder) : Prop :=
  ∃ block, b' = b ++ block ∧ c' = c ++ block.map (·.renamed σ) ∧
    ∀ s ∈ block, ∀ j ∈ s.targets, Inside E b b' j

/-- The same states have been added to two builders, and they are entered at the same one. -/
structure Alike (σ : Nat → Nat) (E : Nat → Prop) (b c : Builder) (r r' : Nat × Builder) :
    Prop where
  start : r'.1 = σ r.1
  inside : Inside E b r.2 r.1
  moved : Moved σ E b c r.2 r'.2

/-- What is added in front of a state is the same in any place. -/
def Relocates (body : Nat → Builder → Nat × Builder) : Prop :=
  ∀ ⦃σ b c⦄, Fits σ b c → ∀ next, Alike σ (· = next) b c (body next b) (body (σ next) c)

/-! ## States that have been added -/

theorem Moved.refl (σ : Nat → Nat) (E : Nat → Prop) (b c : Builder) : Moved σ E b c b c :=
  ⟨#[], Array.append_empty.symm, by rw [Array.map_empty, Array.append_empty], by simp⟩

theorem Moved.size_le (h : Moved σ E b c b' c') : b.size ≤ b'.size := by
  obtain ⟨block, rfl, -, -⟩ := h
  rw [Array.size_append]
  omega

theorem Moved.fits (h : Moved σ E b c b' c') (hσ : Fits σ b c) : Fits σ b' c' := by
  obtain ⟨block, rfl, rfl, -⟩ := h
  intro i
  rw [Array.size_append, Array.size_append, Array.size_map, Nat.add_assoc, Nat.add_assoc]
  exact hσ (block.size + i)

theorem Inside.trans (h : Inside E' b' b'' j) (hE : ∀ j, E' j → Inside E b b' j)
    (hb : b.size ≤ b'.size) (hb' : b'.size ≤ b''.size) : Inside E b b'' j := by
  rcases h with hj | ⟨hle, hlt⟩
  · rcases hE j hj with hj | ⟨hle, hlt⟩
    · exact .inl hj
    · exact .inr ⟨hle, by omega⟩
  · exact .inr ⟨by omega, hlt⟩

theorem Moved.trans (h : Moved σ E b c b' c') (h' : Moved σ E' b' c' b'' c'')
    (hE : ∀ j, E' j → Inside E b b' j) : Moved σ E b c b'' c'' := by
  have hle := h.size_le
  have hle' := h'.size_le
  obtain ⟨block, hb, hc, htargets⟩ := h
  obtain ⟨more, hb', hc', hmore⟩ := h'
  refine ⟨block ++ more, ?_, ?_, ?_⟩
  · rw [hb', hb, Array.append_assoc]
  · rw [hc', hc, Array.map_append, Array.append_assoc]
  · intro s hs j hj
    rcases Array.mem_append.1 hs with hs | hs
    · exact (htargets s hs j hj).imp_right fun h => ⟨h.1, by omega⟩
    · exact (hmore s hs j hj).trans hE hle hle'

/-- Another state is added to both. -/
theorem Moved.push (h : Moved σ E b c b' c') (hs : ∀ j ∈ s.targets, Inside E b (b'.push s) j) :
    Moved σ E b c (b'.push s) (c'.push (s.renamed σ)) := by
  obtain ⟨block, hb, hc, htargets⟩ := h
  refine ⟨block.push s, ?_, ?_, ?_⟩
  · rw [hb, Array.append_push]
  · rw [hc, Array.map_push, Array.append_push]
  · intro t ht j hj
    rcases Array.mem_push.1 ht with ht | rfl
    · refine (htargets t ht j hj).imp_right fun h => ⟨h.1, ?_⟩
      rw [Array.size_push]
      omega
    · exact hs j hj

/-- The first state that was added is replaced in both. -/
theorem Moved.set (h : Moved σ E b c b' c') (hs : ∀ j ∈ s.targets, Inside E b b' j) :
    Moved σ E b c (b'.setIfInBounds b.size s) (c'.setIfInBounds c.size (s.renamed σ)) := by
  obtain ⟨block, rfl, rfl, htargets⟩ := h
  refine ⟨block.setIfInBounds 0 s, ?_, ?_, ?_⟩
  · rw [Array.setIfInBounds_append_right (Nat.le_refl _), Nat.sub_self]
  · rw [Array.setIfInBounds_append_right (Nat.le_refl _), Nat.sub_self, Array.map_setIfInBounds]
  · intro t ht j hj
    have hinside : Inside E b (b ++ block) j := by
      rcases Array.mem_or_eq_of_mem_setIfInBounds ht with hold | rfl
      · exact htargets t hold j hj
      · exact hs j hj
    rwa [Inside, Array.size_setIfInBounds]

/-! ## Steps of building -/

theorem Alike.add (h : Moved σ E b c b' c') (hσ : Fits σ b c)
    (hs : ∀ j ∈ s.targets, Inside E b b' j) :
    Alike σ E b c (b'.add s) (c'.add (s.renamed σ)) where
  start := (h.fits hσ 0).symm
  inside := .inr ⟨h.size_le, by simp [Builder.add]⟩
  moved := h.push fun j hj => (hs j hj).imp_right fun h => ⟨h.1, by rw [Array.size_push]; omega⟩

/-- The next part is added in front of what has been added. -/
theorem Alike.bind (h : Alike σ E b c r r') (hσ : Fits σ b c) (hbody : Relocates body) :
    Alike σ E b c (body r.1 r.2) (body r'.1 r'.2) := by
  have hnext := hbody (h.moved.fits hσ) r.1
  rw [← h.start] at hnext
  have hexit : ∀ j, j = r.1 → Inside E b r.2 j := by
    rintro _ rfl
    exact h.inside
  exact ⟨hnext.start, hnext.inside.trans hexit h.moved.size_le hnext.moved.size_le,
    h.moved.trans hnext.moved hexit⟩

theorem Alike.refl (σ : Nat → Nat) (b c : Builder) (next : Nat) :
    Alike σ (· = next) b c (next, b) (σ next, c) :=
  ⟨rfl, .inl rfl, .refl σ _ b c⟩

theorem renamed_choices (σ : Nat → Nat) (greedy : Bool) (inner leave : Nat) :
    (State.split (if greedy then [inner, leave] else [leave, inner])).renamed σ =
      .split (if greedy then [σ inner, σ leave] else [σ leave, σ inner]) := by
  cases greedy <;> rfl

theorem mem_choices {greedy : Bool} {inner leave : Nat}
    (h : j ∈ (State.split (if greedy then [inner, leave] else [leave, inner])).targets) :
    j = inner ∨ j = leave := by
  cases greedy
  · exact (List.mem_pair.1 h).symm
  · exact List.mem_pair.1 h

theorem Alike.addChoice (h : Alike σ E b c r r') (hσ : Fits σ b c) (greedy : Bool) {leave : Nat}
    (hleave : E leave) :
    Alike σ E b c (r.2.addChoice greedy r.1 leave) (r'.2.addChoice greedy r'.1 (σ leave)) := by
  rw [Builder.addChoice, Builder.addChoice, h.start, ← renamed_choices]
  refine .add h.moved hσ fun j hj => ?_
  rcases mem_choices hj with rfl | rfl
  · exact h.inside
  · exact .inl hleave

/-- The first state that was added becomes a choice. -/
theorem Alike.setChoice (h : Alike σ E b c r r') (greedy : Bool) {leave : Nat} (hleave : E leave) :
    Moved σ E b c
      (r.2.setIfInBounds b.size (.split (if greedy then [r.1, leave] else [leave, r.1])))
      (r'.2.setIfInBounds c.size
        (.split (if greedy then [r'.1, σ leave] else [σ leave, r'.1]))) := by
  rw [h.start, ← renamed_choices]
  refine h.moved.set fun j hj => ?_
  rcases mem_choices hj with rfl | rfl
  · exact h.inside
  · exact .inl hleave

theorem Alike.copies (h : Alike σ E b c r r') (hσ : Fits σ b c) (hbody : Relocates body)
    (count : Nat) :
    Alike σ E b c (copies body count r.1 r.2) (copies body count r'.1 r'.2) := by
  induction count generalizing r r' with
  | zero => exact h
  | succ count ih => exact ih (h.bind hσ hbody)

theorem Alike.optionalCopies (h : Alike σ E b c r r') (hσ : Fits σ b c) (hbody : Relocates body)
    (greedy : Bool) {leave : Nat} (hleave : E leave) (count : Nat) :
    Alike σ E b c (optionalCopies greedy body leave count r.1 r.2)
      (optionalCopies greedy body (σ leave) count r'.1 r'.2) := by
  induction count generalizing r r' with
  | zero => exact h
  | succ count ih => exact ih ((h.bind hσ hbody).addChoice hσ greedy hleave)

theorem Alike.addChars (hσ : Fits σ b c) (next : Nat) (chars : List Char) :
    Alike σ (· = next) b c (b.addChars next chars) (c.addChars (σ next) chars) := by
  induction chars with
  | nil => exact .refl σ b c next
  | cons d rest ih =>
    have htake : (c.addChars (σ next) (d :: rest)) =
        (c.addChars (σ next) rest).2.add (.take (.single d) (σ (b.addChars next rest).1)) := by
      rw [← ih.start]
      rfl
    rw [htake]
    refine .add ih.moved hσ fun j hj => ?_
    obtain rfl := List.mem_singleton.1 hj
    exact ih.inside

/-- A loop is the same in any place, entered at the choice or at the start of the body. -/
theorem Alike.loop (hσ : Fits σ b c) (hbody : Relocates body) (greedy : Bool) (next : Nat) :
    Alike σ (· = next) b c ((b.loop greedy body next).1.1, (b.loop greedy body next).2)
        ((c.loop greedy body (σ next)).1.1, (c.loop greedy body (σ next)).2) ∧
      Alike σ (· = next) b c ((b.loop greedy body next).1.2, (b.loop greedy body next).2)
        ((c.loop greedy body (σ next)).1.2, (c.loop greedy body (σ next)).2) := by
  have hchoice : Alike σ (· = next) b c (b.add (.split [])) (c.add (.split [])) :=
    .add (.refl σ _ b c) hσ fun j hj => (List.not_mem_nil hj).elim
  have hinner := hchoice.bind hσ hbody
  have hset := hinner.setChoice greedy rfl
  have hsize : (b.loop greedy body next).2.size = (body b.size (b.push (.split []))).2.size :=
    Array.size_setIfInBounds
  have hlt : b.size < (body b.size (b.push (.split []))).2.size := by
    have hle := (hbody (hchoice.moved.fits hσ) b.size).moved.size_le
    rwa [Builder.add, Array.size_push] at hle
  constructor
  · exact ⟨hchoice.start, .inr ⟨Nat.le_refl _, Nat.lt_of_lt_of_eq hlt hsize.symm⟩, hset⟩
  · refine ⟨hinner.start, ?_, hset⟩
    exact hinner.inside.imp_right fun h => ⟨h.1, Nat.lt_of_lt_of_eq h.2 hsize.symm⟩

end Builder

open Builder

namespace Expr

mutual

/-- The states of an expression are the same in any place. -/
theorem relocates_build : ∀ e : Expr, Relocates e.build
  | .empty => fun _ _ _ _ next => .refl _ _ _ next
  | .literal chars => fun _ _ _ hσ next => .addChars hσ next chars
  | .set _ _ | .look _ => fun _ _ _ hσ next =>
    .add (.refl _ _ _ _) hσ fun _ hj => .inl (List.mem_singleton.1 hj)
  | .repeated body least most greedy => by
    have hbody := relocates_build body
    intro σ b c hσ next
    cases most with
    | some most =>
      have hoptional := (Alike.refl σ b c next).optionalCopies hσ hbody greedy rfl (most - least)
      exact hoptional.copies hσ hbody least
    | none =>
      obtain ⟨hchoice, hinner⟩ := Alike.loop hσ hbody greedy next
      rw [build, build]
      simp only
      by_cases hleast : least = 0
      · rw [if_pos hleast, if_pos hleast]
        split
        · exact hchoice
        · exact hinner.addChoice hσ greedy rfl
      · rw [if_neg hleast, if_neg hleast]
        exact hinner.copies hσ hbody (least - 1)
  | .capture _ body => relocates_build body
  | .concat parts => relocates_buildAll parts
  | .alternation branches => by
    intro σ b c hσ next
    obtain ⟨hstarts, hinside, hmoved⟩ := moved_buildEach branches hσ next
    have hsplit : build (.alternation branches) (σ next) c = (buildEach branches (σ next) c).2.add
        ((State.split (buildEach branches next b).1).renamed σ) := by
      rw [State.renamed, ← hstarts]
      rfl
    rw [hsplit]
    exact .add hmoved hσ hinside

theorem relocates_buildAll : ∀ es : List Expr, Relocates (buildAll es)
  | [] => fun _ _ _ _ next => .refl _ _ _ next
  | e :: rest => fun _ _ _ hσ next =>
    (relocates_buildAll rest hσ next).bind hσ (relocates_build e)

/-- The states of several expressions are the same in any place. -/
theorem moved_buildEach {σ : Nat → Nat} : ∀ (es : List Expr) {b c : Builder}, Fits σ b c → ∀ next,
    (buildEach es (σ next) c).1 = (buildEach es next b).1.map σ ∧
      (∀ j ∈ (buildEach es next b).1, Inside (· = next) b (buildEach es next b).2 j) ∧
      Moved σ (· = next) b c (buildEach es next b).2 (buildEach es (σ next) c).2
  | [], b, c, _, _ => ⟨rfl, List.forall_mem_nil _, .refl σ _ b c⟩
  | e :: rest, b, c, hσ, next => by
    have hfirst := relocates_build e hσ next
    obtain ⟨hstarts, hinside, hmoved⟩ := moved_buildEach rest (hfirst.moved.fits hσ) next
    have hle := hmoved.size_le
    refine ⟨congrArg₂ List.cons hfirst.start hstarts, List.forall_mem_cons.2 ⟨?_, ?_⟩, ?_⟩
    · exact hfirst.inside.imp_right fun h => ⟨h.1, Nat.lt_of_lt_of_le h.2 hle⟩
    · intro j hj
      exact (hinside j hj).trans (fun _ => .inl) hfirst.moved.size_le hle
    · exact hfirst.moved.trans hmoved fun _ => .inl

end

end Expr

end ScanRules.Pattern
