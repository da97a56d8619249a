import ScanRules.Proofs.CharSet
import ScanRules.Proofs.Pattern.Sequences
import ScanRules.Proofs.Pattern.Settled

/-!
# Alternatives after simplifying

The constructor of alternatives makes one set of characters and sets, and draws a common beginning
in front of sequences. The first does not change what is matched. The second may: the beginning is
then tried in one way after the other, each time with all alternatives behind it. It does not if
there is one way only.

- `Machine.match?_of_commonSet?`: the set of all alternatives.
- `Expr.Unmixed`: alternatives that nothing is drawn in front of but what can match in one way.
- `Machine.match?_choice`: such alternatives match what the first of them does that matches at all.
-/

namespace ScanRules.Pattern

open Pattern.Expr Machine

variable {before : Option Char} {text : List Char}

/-! ## Sets -/

/-- A set matches one character, a member. -/
theorem Machine.match?_set (s : CharSet) (u : Bool) (before : Option Char) (text : List Char) :
    (ofExpr (.set s u)).match? before text = if text.head?.any s.has then some 1 else none := by
  have htake : (ofExpr (.set s u)).match? = (Way.take s).andThen Way.skip := by
    rw [← matchFrom_accept (m := ofExpr (.set s u)) (i := 0) rfl]
    exact matchFrom_take rfl
  rw [htake, Way.andThen_skip, Way.take]

theorem Machine.ofExpr_literal_singleton (c : Char) :
    ofExpr (.literal [c]) = ofExpr (.set (.single c) true) := rfl

/-- A set that has been simplified matches one character, a member. -/
theorem Machine.match?_ofSet (s : CharSet) (u : Bool) (before : Option Char) (text : List Char) :
    (ofExpr (ofSet s u)).match? before text = if text.head?.any s.has then some 1 else none := by
  unfold ofSet
  split
  · next hempty =>
    have hs : s = .empty := congrArg CharSet.mk (List.isEmpty_iff.1 hempty)
    rw [fail, ← hs, match?_set]
  · split
    · next c honly => rw [ofExpr_literal_singleton, match?_set, CharSet.has_of_only? honly]
    · exact match?_set s u before text

/-- Expressions that match one character each, of some set, match one that is in any of the sets. -/
theorem Machine.findSome?_of_mapM {α : Type} {part : Expr → Option α} {test : α → Char → Bool}
    (hpart : ∀ e x, part e = some x →
      (ofExpr e).match? before text = if text.head?.any (test x) then some 1 else none)
    {es : List Expr} {xs : List α} (h : es.mapM part = some xs) :
    (es.findSome? fun e => (ofExpr e).match? before text) =
      if text.head?.any (fun c => xs.any (test · c)) then some 1 else none := by
  induction es generalizing xs with
  | nil =>
    obtain rfl : [] = xs := by simpa using h
    cases text <;> rfl
  | cons e rest ih =>
    rw [List.mapM_cons] at h
    obtain ⟨x, hx, h⟩ := Option.bind_eq_some_iff.1 h
    obtain ⟨more, hmore, h⟩ := Option.bind_eq_some_iff.1 h
    obtain rfl := Option.some.inj h
    rw [List.findSome?_cons, hpart e x hx, ih hmore]
    cases text with
    | nil => rfl
    | cons c rest =>
      rw [List.head?_cons, Option.any_some, Option.any_some, Option.any_some, List.any_cons]
      cases test x c <;> rfl

theorem Machine.match?_of_char? {e : Expr} {c : Char} (h : e.char? = some c)
    (before : Option Char) (text : List Char) : (ofExpr e).match? before text =
      if text.head?.any (CharSet.single c).has then some 1 else none := by
  unfold char? at h
  split at h
  · obtain rfl := Option.some.inj h
    exact match?_set _ true before text
  · cases h

theorem Machine.match?_of_members? {e : Expr} {s : CharSet} (h : e.members? = some s)
    (before : Option Char) (text : List Char) : (ofExpr e).match? before text =
      if text.head?.any s.has then some 1 else none := by
  unfold members? at h
  split at h
  · obtain rfl := Option.some.inj h
    exact match?_set _ _ before text
  · cases h

/-- The set of all alternatives matches what the first of them does that matches at all. -/
theorem Machine.match?_of_commonSet? {es : List Expr} {s : CharSet} (hs : commonSet? es = some s)
    (before : Option Char) (text : List Char) :
    (ofExpr (ofSet s true)).match? before text =
      es.findSome? fun e => (ofExpr e).match? before text := by
  rw [match?_ofSet]
  unfold commonSet? at hs
  split at hs
  · next cs hcs =>
    obtain rfl := Option.some.inj hs
    rw [findSome?_of_mapM (fun e c hc => match?_of_char? hc before text) hcs,
      funext (CharSet.has_ofChars cs)]
  · obtain ⟨sets, hsets, rfl⟩ := Option.map_eq_some_iff.1 hs
    rw [findSome?_of_mapM (fun e s hs => match?_of_members? hs before text) hsets,
      funext (CharSet.has_foldl_union sets)]

/-! ## Branches -/

/-- Nothing is drawn in front of alternatives but what can match in one way only. -/
def Expr.Unmixed (es : List Expr) : Prop :=
  ∀ shared remainders, liftPrefix? (es.flatMap branchesOf) = some (shared, remainders) →
    allRigid shared = true

/-- Nothing is drawn in front of alternatives among which there is a numbered group. -/
theorem Expr.unmixed_of_mem_capture {es : List Expr} {i : Nat} {e : Expr}
    (h : .capture i e ∈ es) : Unmixed es := by
  have hmem : .capture i e ∈ es.flatMap branchesOf :=
    List.mem_flatMap.2 ⟨_, h, List.mem_singleton_self _⟩
  intro shared remainders hlift
  obtain ⟨a, hcommon⟩ := exists_common_of_liftPrefix? hlift
  obtain ⟨rest, heq⟩ := hcommon _ hmem
  cases heq

/-- An expression matches what the first of its branches does that matches at all. -/
theorem Machine.findSome?_branchesOf (e : Expr) (before : Option Char) (text : List Char) :
    (e.branchesOf.findSome? fun b => (ofExpr b).match? before text) =
      (ofExpr e).match? before text := by
  unfold branchesOf
  split
  · exact (match?_alternation _ before text).symm
  · rw [List.findSome?_cons]
    cases (ofExpr _).match? before text <;> rfl

theorem Machine.findSome?_flatMap_branchesOf (es : List Expr) (before : Option Char)
    (text : List Char) :
    ((es.flatMap branchesOf).findSome? fun b => (ofExpr b).match? before text) =
      es.findSome? fun e => (ofExpr e).match? before text := by
  induction es with
  | nil => rfl
  | cons e rest ih =>
    rw [List.flatMap_cons, List.findSome?_append, findSome?_branchesOf, ih, List.findSome?_cons]
    cases (ofExpr e).match? before text <;> rfl

/-- What is drawn in front is gone one way. So alternatives match in order if those do that stand
behind it. -/
theorem Machine.match?_choiceWithin {depth : Nat} {es : List Expr} (h : Unmixed es)
    (hdrawn : ∀ shared remainders, liftPrefix? (es.flatMap branchesOf) = some (shared, remainders) →
      ∀ before text, (ofExpr (choiceWithin depth (remainders.map sequence))).match? before text =
        (remainders.map sequence).findSome? fun e => (ofExpr e).match? before text)
    (before : Option Char) (text : List Char) :
    (ofExpr (choiceWithin (depth + 1) es)).match? before text =
      es.findSome? fun e => (ofExpr e).match? before text := by
  rw [← findSome?_flatMap_branchesOf]
  refine choiceWithin_cases (P := fun choice => (ofExpr choice).match? before text =
    (es.flatMap branchesOf).findSome? fun e => (ofExpr e).match? before text) ?_ ?_ ?_ ?_ ?_
  · intro hnil
    rw [hnil, fail, match?_set]
    cases text <;> rfl
  · intro e hone
    rw [hone, List.findSome?_singleton]
  · intro members hcommon
    exact match?_of_commonSet? hcommon before text
  · intro _ _
    exact match?_alternation _ before text
  · intro shared remainders hlift
    obtain ⟨way, hway⟩ := exists_match?_concat_append (h shared remainders hlift)
    have hremainders : (ofExpr (choiceWithin depth (remainders.map sequence))).match? =
        fun before text => remainders.findSome? fun parts =>
          (ofExpr (.concat parts)).match? before text := by
      funext before text
      rw [hdrawn shared remainders hlift]
      simp only [List.findSome?_map, Function.comp_def, ofExpr_sequence]
    have hlast : ofExpr (.concat [choiceWithin depth (remainders.map sequence)]) =
        ofExpr (choiceWithin depth (remainders.map sequence)) := rfl
    rw [ofExpr_sequence, hway, hlast, hremainders, Way.andThen_findSome?,
      (eq_map_of_liftPrefix? hlift).2]
    simp only [List.findSome?_map, Function.comp_def, hway]

/-- Alternatives that nothing is drawn in front of but what can match in one way match what the
first of them does that matches at all. -/
theorem Machine.match?_choice {es : List Expr} (hsettled : ∀ e ∈ es, e.Settled) (h : Unmixed es)
    (before : Option Char) (text : List Char) :
    (ofExpr (choice es)).match? before text =
      es.findSome? fun e => (ofExpr e).match? before text := by
  refine match?_choiceWithin h (fun shared remainders hlift => ?_) before text
  -- nothing is drawn a second time
  have hnone := liftPrefix?_remainders (settled_of_mem_branches hsettled) hlift
  refine match?_choiceWithin ?_ ?_
  · intro shared' remainders' hnext
    rw [hnone] at hnext
    cases hnext
  · intro shared' remainders' hnext
    rw [hnone] at hnext
    cases hnext

end ScanRules.Pattern
