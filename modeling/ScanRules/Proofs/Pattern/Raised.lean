import Mathlib.Data.List.Basic
import ScanRules.Pattern.Machine.Build

/-!
# Group numbers

The groups of a pattern have higher numbers when others stand in front of it. This does not change
how the pattern is simplified, and machines do not know the numbers.

- `Expr.raised`: an expression with higher group numbers.
- `Expr.sequence_raised`, `Expr.choice_raised` and so on: simplifying goes the same way.
- `Machine.ofExpr_raised`: the machine is the same.
-/

namespace ScanRules.Pattern

namespace Expr

variable {n : Nat}

mutual

/-- The expression with `n` more for the numbers of its groups. -/
def raised (n : Nat) : Expr → Expr
  | .empty => .empty
  | .literal chars => .literal chars
  | .set members unicode => .set members unicode
  | .look condition => .look condition
  | .repeated body least most greedy => .repeated (body.raised n) least most greedy
  | .capture index body => .capture (index + n) (body.raised n)
  | .concat parts => .concat (raisedAll n parts)
  | .alternation branches => .alternation (raisedAll n branches)

/-- Expressions with `n` more for the numbers of their groups. -/
def raisedAll (n : Nat) : List Expr → List Expr
  | [] => []
  | e :: rest => e.raised n :: raisedAll n rest

end

theorem raisedAll_eq_map (n : Nat) (es : List Expr) : raisedAll n es = es.map (raised n) := by
  induction es with
  | nil => rfl
  | cons e rest ih => rw [raisedAll, ih, List.map_cons]

/-! ## What numbers do not count for -/

mutual

theorem same_raised : ∀ a b : Expr, same (a.raised n) (b.raised n) = same a b
  | .empty, b | .literal _, b | .set _ _, b | .look _, b => by cases b <;> rfl
  | .repeated a _ _ _, b => by
    cases b with
    | repeated b => simp only [raised, same, same_raised a b]
    | _ => rfl
  | .capture i a, b => by
    cases b with
    | capture j b =>
      have hindex : (i + n == j + n) = (i == j) := by
        rw [Bool.eq_iff_iff, beq_iff_eq, beq_iff_eq, Nat.add_right_cancel_iff]
      simp only [raised, same, same_raised a b, hindex]
    | _ => rfl
  | .concat as, b => by
    cases b with
    | concat bs => simp only [raised, same, sameAll_raisedAll as bs]
    | _ => rfl
  | .alternation as, b => by
    cases b with
    | alternation bs => simp only [raised, same, sameAll_raisedAll as bs]
    | _ => rfl

theorem sameAll_raisedAll : ∀ as bs : List Expr,
    sameAll (raisedAll n as) (raisedAll n bs) = sameAll as bs
  | [], bs => by cases bs <;> rfl
  | a :: as, [] => rfl
  | a :: as, b :: bs => by
    rw [raisedAll, raisedAll, sameAll, sameAll, same_raised a b, sameAll_raisedAll as bs]

end

mutual

theorem leastSize_raised : ∀ e : Expr, (e.raised n).leastSize = e.leastSize
  | .empty | .literal _ | .set _ _ | .look _ => rfl
  | .repeated body least _ _ => congrArg (Option.map (· * least)) (leastSize_raised body)
  | .capture _ body => leastSize_raised body
  | .concat parts => leastSizeOfAll_raisedAll parts
  | .alternation branches => leastSizeOfAny_raisedAll branches

theorem leastSizeOfAll_raisedAll : ∀ es : List Expr,
    leastSizeOfAll (raisedAll n es) = leastSizeOfAll es
  | [] => rfl
  | e :: rest => congrArg₂ addSizes (leastSize_raised e) (leastSizeOfAll_raisedAll rest)

theorem leastSizeOfAny_raisedAll : ∀ es : List Expr,
    leastSizeOfAny (raisedAll n es) = leastSizeOfAny es
  | [] => rfl
  | [e] => leastSize_raised e
  | e :: d :: rest => by
    have hrest := leastSizeOfAny_raisedAll (d :: rest)
    show (e.raised n).leastSize.bind
      (fun m => (leastSizeOfAny (raisedAll n (d :: rest))).map (min m)) = _
    rw [leastSize_raised e, hrest]
    rfl

end

mutual

theorem greatestSize_raised : ∀ e : Expr, (e.raised n).greatestSize = e.greatestSize
  | .empty | .literal _ | .set _ _ | .look _ => rfl
  | .repeated body _ most _ =>
    congrArg (fun size : Option Nat => most.bind fun k => size.map (· * k))
      (greatestSize_raised body)
  | .capture _ body => greatestSize_raised body
  | .concat parts => greatestSizeOfAll_raisedAll parts
  | .alternation branches => greatestSizeOfAny_raisedAll branches

theorem greatestSizeOfAll_raisedAll : ∀ es : List Expr,
    greatestSizeOfAll (raisedAll n es) = greatestSizeOfAll es
  | [] => rfl
  | e :: rest => congrArg₂ addSizes (greatestSize_raised e) (greatestSizeOfAll_raisedAll rest)

theorem greatestSizeOfAny_raisedAll : ∀ es : List Expr,
    greatestSizeOfAny (raisedAll n es) = greatestSizeOfAny es
  | [] => rfl
  | [e] => greatestSize_raised e
  | e :: d :: rest => by
    have hrest := greatestSizeOfAny_raisedAll (d :: rest)
    show (e.raised n).greatestSize.bind
      (fun m => (greatestSizeOfAny (raisedAll n (d :: rest))).map (max m)) = _
    rw [greatestSize_raised e, hrest]
    rfl

end

/-! ## Simplifying -/

theorem ofSet_raised (members : CharSet) (unicode : Bool) :
    (ofSet members unicode).raised n = ofSet members unicode := by
  unfold ofSet
  split
  · rfl
  · split <;> rfl

theorem repeat_raised (e : Expr) (least : Nat) (most : Option Nat) (greedy : Bool) :
    (e.raised n).repeat least most greedy = (e.repeat least most greedy).raised n := by
  unfold «repeat»
  rw [greatestSize_raised]
  generalize (if e.greatestSize = some 0 then (min least 1, some ((most.map (min · 1)).getD 1))
    else (least, most)) = counts
  obtain ⟨least', most'⟩ := counts
  simp only
  split
  · rfl
  · split <;> rfl

theorem partsOf_raised (e : Expr) : (e.raised n).partsOf = e.partsOf.map (raised n) := by
  cases e with
  | concat parts => exact raisedAll_eq_map n parts
  | _ => rfl

theorem branchesOf_raised (e : Expr) : (e.raised n).branchesOf = e.branchesOf.map (raised n) := by
  cases e with
  | alternation branches => exact raisedAll_eq_map n branches
  | _ => rfl

theorem flatMap_raised {f : Expr → List Expr} (hf : ∀ e, f (e.raised n) = (f e).map (raised n))
    (es : List Expr) : (es.map (raised n)).flatMap f = (es.flatMap f).map (raised n) := by
  rw [List.flatMap_map, List.map_flatMap]
  exact congrArg es.flatMap (funext hf)

theorem joinPart_raised (e : Expr) (rest : List Expr) :
    joinPart (e.raised n) (rest.map (raised n)) = (joinPart e rest).map (raised n) := by
  cases e with
  | literal cs =>
    cases rest with
    | nil => rfl
    | cons d more => cases d <;> rfl
  | _ => rfl

theorem sequence_raised (es : List Expr) :
    sequence (es.map (raised n)) = (sequence es).raised n := by
  have hjoin (parts : List Expr) :
      (parts.map (raised n)).foldr joinPart [] = (parts.foldr joinPart []).map (raised n) := by
    induction parts with
    | nil => rfl
    | cons e rest ih => rw [List.map_cons, List.foldr_cons, ih, joinPart_raised, List.foldr_cons]
  unfold sequence
  rw [flatMap_raised partsOf_raised, hjoin]
  match (es.flatMap partsOf).foldr joinPart [] with
  | [] | [e] => rfl
  | e :: d :: rest => exact congrArg Expr.concat (raisedAll_eq_map n (e :: d :: rest)).symm

theorem mapM_raised {α : Type} {f g : Expr → Option α} (hf : ∀ e : Expr, f (e.raised n) = g e)
    (es : List Expr) : (es.map (raised n)).mapM f = es.mapM g := by
  rw [List.mapM_map]
  exact congrArg (List.mapM · es) (funext hf)

theorem commonSet?_raised (es : List Expr) : commonSet? (es.map (raised n)) = commonSet? es := by
  have hchar (e : Expr) : (e.raised n).char? = e.char? := by cases e <;> rfl
  have hmembers (e : Expr) : (e.raised n).members? = e.members? := by cases e <;> rfl
  rw [commonSet?, commonSet?, mapM_raised hchar, mapM_raised hmembers]

theorem commonPrefix_raised (as bs : List Expr) :
    commonPrefix (as.map (raised n)) (bs.map (raised n)) = (commonPrefix as bs).map (raised n) := by
  induction as generalizing bs with
  | nil => rfl
  | cons a as ih =>
    cases bs with
    | nil => rfl
    | cons b bs =>
      rw [List.map_cons, List.map_cons, commonPrefix, commonPrefix, same_raised, ih]
      split <;> rfl

theorem foldl_commonPrefix_raised (first : List Expr) (rest : List (List Expr)) :
    (rest.map (List.map (raised n))).foldl commonPrefix (first.map (raised n)) =
      (rest.foldl commonPrefix first).map (raised n) := by
  induction rest generalizing first with
  | nil => rfl
  | cons bs rest ih =>
    rw [List.map_cons, List.foldl_cons, commonPrefix_raised, ih, List.foldl_cons]

theorem mapM_concatParts?_raised (es : List Expr) :
    (es.map (raised n)).mapM concatParts? =
      (es.mapM concatParts?).map (List.map (List.map (raised n))) := by
  induction es with
  | nil => rfl
  | cons e rest ih =>
    have hparts : (e.raised n).concatParts? = e.concatParts?.map (List.map (raised n)) := by
      cases e with
      | concat parts => exact congrArg some (raisedAll_eq_map n parts)
      | _ => rfl
    rw [List.map_cons, List.mapM_cons, List.mapM_cons, ih, hparts]
    cases e.concatParts? with
    | none => rfl
    | some parts => cases rest.mapM concatParts? <;> rfl

theorem liftPrefix?_raised (es : List Expr) :
    liftPrefix? (es.map (raised n)) = (liftPrefix? es).map fun (shared, remainders) =>
      (shared.map (raised n), remainders.map (List.map (raised n))) := by
  unfold liftPrefix?
  rw [mapM_concatParts?_raised]
  match es.mapM concatParts? with
  | none | some [] => rfl
  | some (first :: rest) =>
    simp only [Option.map_some, List.map_cons, foldl_commonPrefix_raised]
    match rest.foldl commonPrefix first with
    | [] => rfl
    | e :: more =>
      have hdrop (parts : List Expr) : (parts.map (raised n)).drop (e :: more).length =
          (parts.drop (e :: more).length).map (raised n) := List.map_drop.symm
      simp only [List.map_cons, Option.map_some, List.length_cons, List.length_map] at hdrop ⊢
      simp only [hdrop, List.map_map, Function.comp_def]

theorem flatChoice_raised (es : List Expr) :
    flatChoice (es.map (raised n)) = (flatChoice es).raised n := by
  match es with
  | [] | [e] => rfl
  | e :: d :: rest =>
    have hcommon := commonSet?_raised (n := n) (e :: d :: rest)
    simp only [flatChoice, List.map_cons] at hcommon ⊢
    rw [hcommon]
    cases commonSet? (e :: d :: rest) with
    | some members => exact (ofSet_raised members true).symm
    | none => exact congrArg Expr.alternation (raisedAll_eq_map n (e :: d :: rest)).symm

theorem choiceWithin_raised (depth : Nat) (es : List Expr) :
    choiceWithin depth (es.map (raised n)) = (choiceWithin depth es).raised n := by
  induction depth generalizing es with
  | zero => exact flatChoice_raised es
  | succ depth ih =>
    unfold choiceWithin
    rw [flatMap_raised branchesOf_raised]
    match es.flatMap branchesOf with
    | [] | [e] => rfl
    | e :: d :: rest =>
      have hcommon := commonSet?_raised (n := n) (e :: d :: rest)
      have hlift := liftPrefix?_raised (n := n) (e :: d :: rest)
      simp only [List.map_cons] at hcommon hlift ⊢
      rw [hcommon, hlift]
      cases commonSet? (e :: d :: rest) with
      | some members => exact (ofSet_raised members true).symm
      | none =>
        cases liftPrefix? (e :: d :: rest) with
        | none => exact congrArg Expr.alternation (raisedAll_eq_map n (e :: d :: rest)).symm
        | some lifted =>
          obtain ⟨shared, remainders⟩ := lifted
          have hrest : (remainders.map (List.map (raised n))).map sequence =
              (remainders.map sequence).map (raised n) := by
            rw [List.map_map, List.map_map]
            exact congrArg (List.map · remainders) (funext sequence_raised)
          simp only [Option.map_some, hrest, ih]
          rw [← sequence_raised, List.map_append, List.map_singleton]

/-- Alternatives are simplified in the same way. -/
theorem choice_raised (es : List Expr) : choice (es.map (raised n)) = (choice es).raised n :=
  choiceWithin_raised 2 es

/-! ## Machines -/

mutual

theorem build_raised : ∀ e : Expr, (e.raised n).build = e.build
  | .empty | .literal _ | .set _ _ | .look _ => rfl
  | .repeated body least most greedy => by
    funext next b
    cases most <;> rw [raised, build, build, build_raised body]
    rw [leastSize_raised body]
  | .capture _ body => build_raised body
  | .concat parts => buildAll_raisedAll parts
  | .alternation branches => by
    funext next b
    rw [raised, build, build, buildEach_raisedAll branches]

theorem buildAll_raisedAll : ∀ es : List Expr, buildAll (raisedAll n es) = buildAll es
  | [] => rfl
  | e :: rest => by
    funext next b
    rw [raisedAll, buildAll, buildAll, buildAll_raisedAll rest, build_raised e]

theorem buildEach_raisedAll : ∀ es : List Expr, buildEach (raisedAll n es) = buildEach es
  | [] => rfl
  | e :: rest => by
    funext next b
    rw [raisedAll, buildEach, buildEach, build_raised e, buildEach_raisedAll rest]

end

end Expr

/-- Machines do not know the numbers of groups. -/
theorem Machine.ofExpr_raised (e : Expr) (n : Nat) : ofExpr (e.raised n) = ofExpr e := by
  rw [ofExpr, ofExpr, e.build_raised]

end ScanRules.Pattern
