import Mathlib.Data.List.Chain
import ScanRules.Proofs.Pattern.Assertion

/-!
# Settled expressions

What the constructors that simplify have made does not change when it goes through them again.

- `Expr.Settled`: sequences have at least two parts, which are no sequences themselves, and no two
  of them are characters in a row. Alternatives have no common beginning.
- `Expr.liftPrefix?_remainders`: behind a beginning that has been drawn in front of alternatives
  there is no other one to be drawn.
- `Expr.kept_settled`: simplifying keeps, and so the meaning of a tree is settled.
- `Expr.choiceWithin_of_meanings`: so the bound on how often a beginning is drawn does not matter.
- `Expr.Settled.sequence_singleton`: a settled expression is the sequence of itself alone.
-/

namespace ScanRules.Pattern.Expr

/-- Are two expressions characters, so that a sequence joins them? -/
def Joins (a b : Expr) : Prop := ∃ cs ds, a = .literal cs ∧ b = .literal ds

/-- An expression that leaves nothing to simplify in its sequences and alternatives. Alternatives
may end up as parts of a sequence, and parts of it as alternatives, so this goes through both. -/
inductive Settled : Expr → Prop
  | empty : Settled .empty
  | literal (chars : List Char) : Settled (.literal chars)
  | set (members : CharSet) (unicode : Bool) : Settled (.set members unicode)
  | look (look : Look) : Settled (.look look)
  | repeated (body : Expr) (least : Nat) (most : Option Nat) (greedy : Bool) :
    Settled (.repeated body least most greedy)
  | capture (index : Nat) (body : Expr) : Settled (.capture index body)
  | concat {parts : List Expr} : (∀ e ∈ parts, Settled e) → (∀ e ∈ parts, e.partsOf = [e]) →
    parts.IsChain (¬ Joins · ·) → 2 ≤ parts.length → Settled (.concat parts)
  | alternation {branches : List Expr} : (∀ e ∈ branches, Settled e) → branches ≠ [] →
    liftPrefix? branches = none → Settled (.alternation branches)

variable {e : Expr} {es : List Expr}

/-! ## Joining characters -/

theorem joinPart_of_not_joins {d : Expr} (h : ¬ Joins e d) (rest : List Expr) :
    joinPart e (d :: rest) = e :: d :: rest := by
  unfold joinPart
  split
  · next cs ds more heq =>
    obtain ⟨rfl, rfl⟩ := List.cons.inj heq
    exact absurd ⟨cs, ds, rfl, rfl⟩ h
  · rfl

/-- Nothing is joined in a list without two neighbours to join. -/
theorem foldr_joinPart_of_isChain (h : es.IsChain (¬ Joins · ·)) : es.foldr joinPart [] = es := by
  induction es with
  | nil => rfl
  | cons e rest ih =>
    rw [List.foldr_cons, ih h.of_cons]
    cases rest with
    | nil => cases e <;> rfl
    | cons d more => exact joinPart_of_not_joins (List.isChain_cons_cons.1 h).1 more

/-- Joining a part to a list leaves no two neighbours to join. -/
theorem isChain_joinPart (h : es.IsChain (¬ Joins · ·)) :
    (joinPart e es).IsChain (¬ Joins · ·) := by
  unfold joinPart
  split
  · next cs ds more =>
    cases more with
    | nil => exact .singleton _
    | cons d more =>
      -- the joined characters stand where characters stood before
      obtain ⟨hfirst, hrest⟩ := List.isChain_cons_cons.1 h
      refine List.isChain_cons_cons.2 ⟨?_, hrest⟩
      rintro ⟨-, ds', -, rfl⟩
      exact hfirst ⟨ds, ds', rfl, rfl⟩
  · next hjoin =>
    cases es with
    | nil => exact .singleton _
    | cons d more =>
      refine List.isChain_cons_cons.2 ⟨?_, h⟩
      rintro ⟨cs, ds, rfl, rfl⟩
      exact hjoin cs ds more rfl rfl

theorem isChain_foldr_joinPart (es : List Expr) :
    (es.foldr joinPart []).IsChain (¬ Joins · ·) := by
  induction es with
  | nil => exact .nil
  | cons e rest ih => exact isChain_joinPart ih

/-- What joining makes of parts is parts of the list, and characters. -/
theorem forall_mem_foldr_joinPart {P : Expr → Prop} (hliteral : ∀ cs, P (.literal cs))
    (h : ∀ e ∈ es, P e) : ∀ e ∈ es.foldr joinPart [], P e := by
  induction es with
  | nil => exact List.forall_mem_nil _
  | cons e rest ih =>
    obtain ⟨he, hrest⟩ := List.forall_mem_cons.1 h
    have hjoined := ih hrest
    rw [List.foldr_cons]
    generalize rest.foldr joinPart [] = joined at hjoined ⊢
    unfold joinPart
    split
    · exact List.forall_mem_cons.2 ⟨hliteral _, (List.forall_mem_cons.1 hjoined).2⟩
    · exact List.forall_mem_cons.2 ⟨he, hjoined⟩

/-! ## Settled expressions -/

/-- Parts that contribute themselves to a sequence. -/
theorem flatMap_partsOf {parts : List Expr} (h : ∀ e ∈ parts, e.partsOf = [e]) :
    parts.flatMap partsOf = parts := by
  rw [List.flatMap_congr h, List.flatMap_singleton']

/-- There is nothing to simplify in a sequence of such parts without two neighbours to join. -/
theorem sequence_of_isChain {parts : List Expr} (hparts : ∀ e ∈ parts, e.partsOf = [e])
    (hchain : parts.IsChain (¬ Joins · ·)) (hlength : 2 ≤ parts.length) :
    sequence parts = .concat parts := by
  rw [sequence, flatMap_partsOf hparts, foldr_joinPart_of_isChain hchain]
  rcases parts with _ | ⟨a, _ | ⟨b, more⟩⟩
  · simp at hlength
  · simp at hlength
  · rfl

/-- A settled expression is the sequence of itself alone. -/
theorem Settled.sequence_singleton (h : e.Settled) : sequence [e] = e := by
  cases h with
  | @concat parts _ hparts hchain hlength =>
    have hsame : sequence [.concat parts] = sequence parts := by
      rw [sequence, sequence, flatMap_partsOf hparts, List.flatMap_singleton, partsOf]
    rw [hsame, sequence_of_isChain hparts hchain hlength]
  | _ => rfl

/-- The parts that a settled expression contributes to a sequence. -/
theorem Settled.partsOf (h : e.Settled) : ∀ p ∈ e.partsOf, p.Settled ∧ p.partsOf = [p] := by
  cases h with
  | empty => exact List.forall_mem_nil _
  | concat hsettled hparts _ _ => exact fun p hp => ⟨hsettled p hp, hparts p hp⟩
  | literal cs => exact List.forall_mem_singleton.2 ⟨.literal cs, rfl⟩
  | set s u => exact List.forall_mem_singleton.2 ⟨.set s u, rfl⟩
  | look l => exact List.forall_mem_singleton.2 ⟨.look l, rfl⟩
  | repeated a n x g => exact List.forall_mem_singleton.2 ⟨.repeated a n x g, rfl⟩
  | capture i a => exact List.forall_mem_singleton.2 ⟨.capture i a, rfl⟩
  | alternation hbranches hne hlift =>
    exact List.forall_mem_singleton.2 ⟨.alternation hbranches hne hlift, rfl⟩

theorem settled_sequence (h : ∀ e ∈ es, e.Settled) : (sequence es).Settled := by
  have hparts := List.forall_mem_flatMap.2 fun e he => (h e he).partsOf
  have hjoined := forall_mem_foldr_joinPart (fun cs => ⟨.literal cs, rfl⟩) hparts
  have hchain := isChain_foldr_joinPart (es.flatMap Expr.partsOf)
  unfold sequence
  generalize (es.flatMap Expr.partsOf).foldr joinPart [] = joined at hjoined hchain ⊢
  match joined with
  | [] => exact .empty
  | [e] => exact (List.forall_mem_singleton.1 hjoined).1
  | a :: b :: more =>
    exact .concat (fun e he => (hjoined e he).1) (fun e he => (hjoined e he).2) hchain (by simp)

theorem settled_ofSet (members : CharSet) (unicode : Bool) : (ofSet members unicode).Settled :=
  ofSet_induction (fun c => .literal [c]) .set members unicode

/-! ## Common beginnings -/

theorem Settled.branchesOf (h : e.Settled) : ∀ b ∈ e.branchesOf, b.Settled := by
  unfold Expr.branchesOf
  split
  · cases h with
    | alternation hbranches _ _ => exact hbranches
  · exact List.forall_mem_singleton.2 h

theorem settled_of_mem_branches (h : ∀ e ∈ es, e.Settled) :
    ∀ b ∈ es.flatMap Expr.branchesOf, b.Settled :=
  List.forall_mem_flatMap.2 fun e he => (h e he).branchesOf

/-- A part of a settled sequence is neither a sequence nor made up of sequences that start with the
same part. -/
theorem Settled.not_common_of_partsOf (h : e.Settled) (hpart : e.partsOf = [e]) (a : Expr) :
    ¬ ∀ b ∈ e.branchesOf, ∃ rest, b = .concat (a :: rest) := by
  intro hall
  cases h with
  | alternation _ hne hlift => exact liftPrefix?_ne_none hne hall hlift
  | @concat parts _ _ _ hlength =>
    have hone : parts.length = 1 := congrArg List.length hpart
    omega
  | _ =>
    obtain ⟨rest, heq⟩ := hall _ (List.mem_singleton_self _)
    cases heq

/-- Behind a beginning that has been drawn in front of alternatives there is no other one to be
drawn: it would start with a part that all the remainders have in common, and the beginning was the
longest one. Where an alternative goes on with alternatives, these have no common beginning
themselves. -/
theorem liftPrefix?_remainders {shared : List Expr} {remainders : List (List Expr)}
    (h : ∀ e ∈ es, e.Settled) (hlift : liftPrefix? es = some (shared, remainders)) :
    liftPrefix? ((remainders.map sequence).flatMap Expr.branchesOf) = none := by
  cases hnext : liftPrefix? ((remainders.map sequence).flatMap Expr.branchesOf) with
  | none => rfl
  | some next =>
    exfalso
    obtain ⟨a, ha⟩ := exists_common_of_liftPrefix? hnext
    refine not_common_of_liftPrefix? hlift a fun parts hparts => ?_
    have hbranches : ∀ b ∈ (sequence parts).branchesOf, ∃ rest, b = .concat (a :: rest) :=
      fun b hb => ha b (List.mem_flatMap.2 ⟨_, List.mem_map_of_mem hparts, hb⟩)
    obtain ⟨-, rfl⟩ := eq_map_of_liftPrefix? hlift
    cases h _ (List.mem_map_of_mem hparts) with
    | concat hsettled hone hchain _ =>
      obtain ⟨-, hsettled⟩ := List.forall_mem_append.1 hsettled
      obtain ⟨-, hone⟩ := List.forall_mem_append.1 hone
      -- what remains is nothing, one part, or a sequence as it stands
      rcases parts with _ | ⟨p, _ | ⟨q, more⟩⟩
      · obtain ⟨rest, heq⟩ := hbranches .empty (List.mem_singleton_self _)
        cases heq
      · have hp := hsettled p (List.mem_singleton_self p)
        rw [hp.sequence_singleton] at hbranches
        exact absurd hbranches (hp.not_common_of_partsOf (hone p (List.mem_singleton_self p)) a)
      · have hsame : sequence (p :: q :: more) = .concat (p :: q :: more) :=
          sequence_of_isChain hone hchain.right_of_append (by simp)
        rw [hsame] at hbranches
        obtain ⟨rest, heq⟩ := hbranches _ (List.mem_singleton_self _)
        exact ⟨rest, Expr.concat.inj heq⟩

theorem settled_of_liftPrefix? {shared : List Expr} {remainders : List (List Expr)}
    (h : ∀ e ∈ es, e.Settled) (hlift : liftPrefix? es = some (shared, remainders)) :
    (∀ e ∈ shared, e.Settled) ∧ ∀ e ∈ remainders.map sequence, e.Settled := by
  have hparts : ∀ parts, .concat parts ∈ es → ∀ p ∈ parts, p.Settled := by
    intro parts hmem
    cases h _ hmem with
    | concat hsettled _ _ _ => exact hsettled
  obtain ⟨hshared, hremainders⟩ := forall_of_liftPrefix? hparts hlift
  refine ⟨hshared, ?_⟩
  intro e he
  obtain ⟨parts, hmem, rfl⟩ := List.mem_map.1 he
  exact settled_sequence (hremainders parts hmem)

/-- A choice is settled if the choice behind what is drawn in front of it is. -/
theorem settled_choiceWithin {depth : Nat} (h : ∀ e ∈ es, e.Settled)
    (hdrawn : ∀ shared remainders,
      liftPrefix? (es.flatMap Expr.branchesOf) = some (shared, remainders) →
        (choiceWithin depth (remainders.map sequence)).Settled) :
    (choiceWithin (depth + 1) es).Settled := by
  have hbranches := settled_of_mem_branches h
  refine choiceWithin_cases ?_ ?_ ?_ ?_ ?_
  · intro _
    exact settled_ofSet .empty false
  · intro e heq
    exact hbranches e (heq ▸ List.mem_singleton_self e)
  · intro members _
    exact settled_ofSet members true
  · intro hne hlift
    exact .alternation hbranches hne hlift
  · intro shared remainders hlift
    obtain ⟨hshared, -⟩ := settled_of_liftPrefix? hbranches hlift
    refine settled_sequence (List.forall_mem_append.2 ⟨hshared, ?_⟩)
    exact List.forall_mem_singleton.2 (hdrawn shared remainders hlift)

theorem settled_choice (h : ∀ e ∈ es, e.Settled) : (choice es).Settled := by
  have hbranches := settled_of_mem_branches h
  refine settled_choiceWithin h fun shared remainders hlift => ?_
  obtain ⟨-, hremainders⟩ := settled_of_liftPrefix? hbranches hlift
  refine settled_choiceWithin hremainders fun shared' remainders' hnext => ?_
  rw [liftPrefix?_remainders hbranches hlift] at hnext
  cases hnext

/-- What is simplified is settled. -/
theorem kept_settled : Kept Settled where
  empty := .empty
  literal := .literal
  ofSet := settled_ofSet
  «repeat» least most greedy h := by
    exact repeat_induction .empty h (fun least most greedy => .repeated _ least most greedy) _ _ _
  capture index _ := .capture index _
  sequence := settled_sequence
  choice := settled_choice

/-- What a tree means is settled. -/
theorem settled_of_meaning {m m' : Modes} {tree : Tree} (h : tree.meaning m = .ok (e, m')) :
    e.Settled :=
  kept_settled.of_meaning (fun _ => .look) h

theorem settled_of_meanings {m m' : Modes} {trees : List Tree}
    (h : Tree.meanings m trees = .ok (es, m')) : ∀ e ∈ es, e.Settled :=
  kept_settled.of_meanings (fun _ => .look) h

/-- What matches the empty text at most does not count in a sequence. -/
theorem sequence_empty_cons (es : List Expr) : sequence (.empty :: es) = sequence es := rfl

/-! ## How often a beginning is drawn -/

/-- The bound on how often a beginning is drawn matters only behind one. -/
theorem choiceWithin_succ_congr {depth depth' : Nat}
    (h : ∀ shared remainders,
      liftPrefix? (es.flatMap Expr.branchesOf) = some (shared, remainders) →
        choiceWithin depth (remainders.map sequence) =
          choiceWithin depth' (remainders.map sequence)) :
    choiceWithin (depth + 1) es = choiceWithin (depth' + 1) es := by
  rw [choiceWithin, choiceWithin]
  generalize es.flatMap Expr.branchesOf = branches at h
  rcases branches with _ | ⟨e, _ | ⟨d, rest⟩⟩
  · rfl
  · rfl
  · simp only
    cases commonSet? (e :: d :: rest) with
    | some members => rfl
    | none =>
      cases hlift : liftPrefix? (e :: d :: rest) with
      | none => rfl
      | some lifted =>
        show sequence (lifted.1 ++ [choiceWithin depth (lifted.2.map sequence)]) =
          sequence (lifted.1 ++ [choiceWithin depth' (lifted.2.map sequence)])
        rw [h lifted.1 lifted.2 hlift]

/-- However often beginnings may be drawn in front of settled expressions, it happens once. -/
theorem choiceWithin_eq_choice (h : ∀ e ∈ es, e.Settled) (n : Nat) :
    choiceWithin (n + 2) es = choice es := by
  refine choiceWithin_succ_congr fun shared remainders hlift => ?_
  refine choiceWithin_succ_congr fun shared' remainders' hnext => ?_
  rw [liftPrefix?_remainders (settled_of_mem_branches h) hlift] at hnext
  cases hnext

/-- So the alternatives of a tree are simplified as if there were no bound. -/
theorem choiceWithin_of_meanings {m m' : Modes} {branches : List Tree}
    (h : Tree.meanings m branches = .ok (es, m')) (n : Nat) :
    choiceWithin (n + 2) es = choice es :=
  choiceWithin_eq_choice (settled_of_meanings h) n

end ScanRules.Pattern.Expr
