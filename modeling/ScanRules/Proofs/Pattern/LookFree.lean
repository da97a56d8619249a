import ScanRules.Pattern.Machine.Build
import ScanRules.Proofs.Pattern.Blind
import ScanRules.Proofs.Pattern.Simplify

/-!
# Expressions without assertions

- `Expr.LookFree`: no part of the expression is an assertion.
- `Expr.kept_lookFree`: the constructors that simplify bring none in.
- `Expr.LookFree.blind_ofExpr`: the machine of such an expression looks at nothing but what it
  takes.
-/

namespace ScanRules.Pattern

namespace Expr

/-- None of the parts of the expression is an assertion. -/
inductive LookFree : Expr → Prop
  | empty : LookFree .empty
  | literal (chars : List Char) : LookFree (.literal chars)
  | set (members : CharSet) (unicode : Bool) : LookFree (.set members unicode)
  | repeated {body : Expr} (least : Nat) (most : Option Nat) (greedy : Bool) : LookFree body →
    LookFree (.repeated body least most greedy)
  | capture (index : Nat) {body : Expr} : LookFree body → LookFree (.capture index body)
  | concat {parts : List Expr} : (∀ e ∈ parts, LookFree e) → LookFree (.concat parts)
  | alternation {branches : List Expr} : (∀ e ∈ branches, LookFree e) →
    LookFree (.alternation branches)

variable {e : Expr} {es : List Expr}

/-- Joined characters are characters still. -/
theorem lookFree_joinPart (h : e.LookFree) (hes : ∀ p ∈ es, p.LookFree) :
    ∀ p ∈ joinPart e es, p.LookFree := by
  unfold joinPart
  split
  · next cs ds more =>
    exact List.forall_mem_cons.2 ⟨.literal _, (List.forall_mem_cons.1 hes).2⟩
  · exact List.forall_mem_cons.2 ⟨h, hes⟩

theorem lookFree_foldr_joinPart (h : ∀ e ∈ es, e.LookFree) :
    ∀ p ∈ es.foldr joinPart [], p.LookFree := by
  induction es with
  | nil => exact List.forall_mem_nil _
  | cons e rest ih =>
    obtain ⟨he, hrest⟩ := List.forall_mem_cons.1 h
    exact lookFree_joinPart he (ih hrest)

theorem LookFree.partsOf (h : e.LookFree) : ∀ p ∈ e.partsOf, p.LookFree := by
  unfold Expr.partsOf
  split
  · exact List.forall_mem_nil _
  · cases h with
    | concat hparts => exact hparts
  · exact List.forall_mem_singleton.2 h

theorem lookFree_sequence (h : ∀ e ∈ es, e.LookFree) : (sequence es).LookFree := by
  have hparts := List.forall_mem_flatMap.2 fun e he => (h e he).partsOf
  have hjoined := lookFree_foldr_joinPart hparts
  unfold sequence
  split
  · exact .empty
  · next e heq => exact List.forall_mem_singleton.1 (heq ▸ hjoined)
  · exact .concat hjoined

theorem lookFree_ofSet (members : CharSet) (unicode : Bool) : (ofSet members unicode).LookFree :=
  ofSet_induction (fun c => .literal [c]) .set members unicode

/-- Simplifying brings no assertions in. -/
theorem kept_lookFree : Kept LookFree where
  empty := .empty
  literal := .literal
  ofSet := lookFree_ofSet
  «repeat» least most greedy h := by
    exact repeat_induction .empty h (fun least most greedy => .repeated least most greedy h) _ _ _
  capture index h := .capture index h
  sequence := lookFree_sequence
  choice h := by
    refine choice_induction lookFree_ofSet (fun _ => lookFree_sequence) ?_ ?_ h
    · intro parts hparts
      cases hparts with
      | concat hfree => exact hfree
    · intro branches
      refine ⟨fun hbranches => ?_, .alternation⟩
      cases hbranches with
      | alternation hfree => exact hfree

end Expr

/-! ## Machines -/

namespace Builder

/-- None of the states so far looks around. -/
def Blind (b : Builder) : Prop := ∀ s ∈ b, s.Blind

/-- What is added to a machine does not look around. -/
def AddsBlind (body : Nat → Builder → Nat × Builder) : Prop :=
  ∀ next (b : Builder), b.Blind → (body next b).2.Blind

variable {b : Builder} {body : Nat → Builder → Nat × Builder}

theorem Blind.add (h : b.Blind) {s : State} (hs : s.Blind) : (b.add s).2.Blind := by
  intro t ht
  rcases Array.mem_push.1 ht with hold | rfl
  · exact h t hold
  · exact hs

theorem Blind.addChars (h : b.Blind) (next : Nat) (chars : List Char) :
    (b.addChars next chars).2.Blind := by
  induction chars with
  | nil => exact h
  | cons c rest ih => exact ih.add trivial

theorem Blind.loop (h : b.Blind) (hbody : AddsBlind body) (greedy : Bool) (next : Nat) :
    (b.loop greedy body next).2.Blind := by
  intro t ht
  obtain hold | rfl := Array.mem_or_eq_of_mem_setIfInBounds ht
  · exact hbody _ _ (h.add (s := .split []) trivial) t hold
  · trivial

theorem AddsBlind.copies (hbody : AddsBlind body) (count : Nat) :
    AddsBlind (copies body count) := by
  induction count with
  | zero => exact fun _ _ h => h
  | succ count ih => exact fun next b h => ih _ _ (hbody next b h)

theorem AddsBlind.optionalCopies (hbody : AddsBlind body) (greedy : Bool) (leave count : Nat) :
    AddsBlind (optionalCopies greedy body leave count) := by
  induction count with
  | zero => exact fun _ _ h => h
  | succ count ih => exact fun next b h => ih _ _ (Blind.add (hbody next b h) trivial)

end Builder

namespace Expr.LookFree

open Builder (AddsBlind)

theorem addsBlind_buildAll {es : List Expr} (h : ∀ e ∈ es, AddsBlind e.build) :
    AddsBlind (buildAll es) := by
  induction es with
  | nil => exact fun _ _ hb => hb
  | cons e rest ih =>
    obtain ⟨he, hrest⟩ := List.forall_mem_cons.1 h
    exact fun next b hb => he _ _ (ih hrest next b hb)

theorem blind_buildEach {es : List Expr} (h : ∀ e ∈ es, AddsBlind e.build) (next : Nat) :
    ∀ b : Builder, b.Blind → (buildEach es next b).2.Blind := by
  induction es with
  | nil => exact fun _ hb => hb
  | cons e rest ih =>
    obtain ⟨he, hrest⟩ := List.forall_mem_cons.1 h
    exact fun b hb => ih hrest _ (he next b hb)

/-- The states of an expression without assertions do not look around, by induction on its
parts. -/
theorem addsBlind_build {e : Expr} (h : e.LookFree) : AddsBlind e.build := by
  induction h with
  | empty => exact fun _ _ hb => hb
  | literal chars => exact fun next b hb => hb.addChars next chars
  | set members unicode => exact fun next b hb => hb.add trivial
  | @repeated body least most greedy _ ih =>
    intro next b hb
    cases most with
    | some most => exact ih.copies least _ _ (ih.optionalCopies greedy next _ next b hb)
    | none =>
      rw [build]
      simp only
      by_cases hleast : least = 0
      · rw [if_pos hleast]
        split
        · exact hb.loop ih greedy next
        · exact (hb.loop ih greedy next).add trivial
      · rw [if_neg hleast]
        exact ih.copies _ _ _ (hb.loop ih greedy next)
  | capture index _ ih => exact ih
  | concat _ ih => exact addsBlind_buildAll ih
  | alternation _ ih => exact fun next b hb => (blind_buildEach ih next b hb).add trivial

/-- The machine of such an expression looks at nothing but what it takes. -/
theorem blind_ofExpr {e : Expr} (h : e.LookFree) : (Machine.ofExpr e).Blind := by
  refine h.addsBlind_build 0 #[.accept] fun s hs => ?_
  obtain rfl := Array.mem_singleton.1 hs
  trivial

end Expr.LookFree

end ScanRules.Pattern
