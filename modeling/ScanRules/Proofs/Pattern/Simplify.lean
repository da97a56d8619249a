import ScanRules.Pattern.Expr

/-!
# What simplifying keeps

The constructors that simplify move, copy and join parts of expressions. A property of expressions
that a few of their forms pass on is kept by all of them.

- `Expr.eq_map_of_liftPrefix?`: alternatives that something is drawn in front of are sequences that
  start with it.
- `Expr.not_common_of_liftPrefix?`: all that they start with in common is drawn.
- `Expr.forall_of_liftPrefix?`: what is drawn in front of alternatives was there before.
- `Expr.choiceWithin_cases`: what a choice can be.
- `Expr.choice_induction`: a property that goes through sequences and alternatives holds of a
  choice.
- `Expr.Kept`: the properties that simplifying keeps.
-/

namespace ScanRules.Pattern.Expr

variable {P : Expr → Prop} {e : Expr} {es : List Expr}

/-! ## Common beginnings -/

mutual

/-- Expressions that are built in the same way are equal. -/
theorem eq_of_same : ∀ {a b : Expr}, same a b = true → a = b
  | .empty, b, h => by
    cases b with
    | empty => rfl
    | _ => cases h
  | .literal _, b, h => by
    cases b with
    | literal => rw [eq_of_beq h]
    | _ => cases h
  | .set _ _, b, h => by
    cases b with
    | set =>
      obtain ⟨hmembers, hunicode⟩ := Bool.and_eq_true_iff.1 h
      rw [eq_of_beq hmembers, eq_of_beq hunicode]
    | _ => cases h
  | .look _, b, h => by
    cases b with
    | look => rw [eq_of_beq h]
    | _ => cases h
  | .repeated _ _ _ _, b, h => by
    cases b with
    | repeated =>
      simp only [same, Bool.and_eq_true, beq_iff_eq] at h
      obtain ⟨⟨⟨rfl, rfl⟩, rfl⟩, hbody⟩ := h
      rw [eq_of_same hbody]
    | _ => cases h
  | .capture _ _, b, h => by
    cases b with
    | capture =>
      obtain ⟨hindex, hbody⟩ := Bool.and_eq_true_iff.1 h
      rw [eq_of_beq hindex, eq_of_same hbody]
    | _ => cases h
  | .concat _, b, h => by
    cases b with
    | concat => rw [eq_of_sameAll h]
    | _ => cases h
  | .alternation _, b, h => by
    cases b with
    | alternation => rw [eq_of_sameAll h]
    | _ => cases h

theorem eq_of_sameAll : ∀ {as bs : List Expr}, sameAll as bs = true → as = bs
  | [], [], _ => rfl
  | a :: as, b :: bs, h => by
    obtain ⟨hfirst, hrest⟩ := Bool.and_eq_true_iff.1 h
    rw [eq_of_same hfirst, eq_of_sameAll hrest]

end

mutual

/-- An expression is built in the same way as itself. -/
theorem same_refl : ∀ e : Expr, same e e = true
  | .empty => rfl
  | .literal cs => beq_self_eq_true cs
  | .set s u => Bool.and_eq_true_iff.2 ⟨beq_self_eq_true s, beq_self_eq_true u⟩
  | .look l => beq_self_eq_true l
  | .repeated body least most greedy => by
    simp only [same, beq_self_eq_true, Bool.true_and]
    exact same_refl body
  | .capture i body => Bool.and_eq_true_iff.2 ⟨beq_self_eq_true i, same_refl body⟩
  | .concat parts => sameAll_refl parts
  | .alternation branches => sameAll_refl branches

theorem sameAll_refl : ∀ es : List Expr, sameAll es es = true
  | [] => rfl
  | e :: rest => Bool.and_eq_true_iff.2 ⟨same_refl e, sameAll_refl rest⟩

end

/-- A common beginning is one of the first list. -/
theorem commonPrefix_prefix_left (as bs : List Expr) : commonPrefix as bs <+: as := by
  fun_induction commonPrefix as bs with
  | case1 a as b bs _ ih => exact List.cons_prefix_cons.2 ⟨rfl, ih⟩
  | case2 | case3 => exact List.nil_prefix

/-- It is one of the second list as well. -/
theorem commonPrefix_prefix_right (as bs : List Expr) : commonPrefix as bs <+: bs := by
  fun_induction commonPrefix as bs with
  | case1 a as b bs hsame ih => exact List.cons_prefix_cons.2 ⟨eq_of_same hsame, ih⟩
  | case2 | case3 => exact List.nil_prefix

/-- What several lists begin with in common is the beginning of each of them. -/
theorem foldl_commonPrefix_prefix (first : List Expr) (rest : List (List Expr)) :
    ∀ parts ∈ first :: rest, rest.foldl commonPrefix first <+: parts := by
  induction rest generalizing first with
  | nil => exact List.forall_mem_singleton.2 List.prefix_rfl
  | cons bs rest ih =>
    obtain ⟨hcommon, hrest⟩ := List.forall_mem_cons.1 (ih (commonPrefix first bs))
    exact List.forall_mem_cons.2 ⟨hcommon.trans (commonPrefix_prefix_left first bs),
      List.forall_mem_cons.2 ⟨hcommon.trans (commonPrefix_prefix_right first bs), hrest⟩⟩

/-- There is no longer beginning that two lists have in common. -/
theorem prefix_commonPrefix {s : List Expr} : ∀ {as bs : List Expr},
    s <+: as → s <+: bs → s <+: commonPrefix as bs := by
  induction s with
  | nil => exact fun _ _ => List.nil_prefix
  | cons p s ih =>
    rintro _ _ ⟨as, rfl⟩ ⟨bs, rfl⟩
    show p :: s <+: if same p p = true then p :: commonPrefix (s ++ as) (s ++ bs) else []
    rw [if_pos (same_refl p)]
    exact List.cons_prefix_cons.2 ⟨rfl, ih (List.prefix_append s as) (List.prefix_append s bs)⟩

theorem prefix_foldl_commonPrefix {s first : List Expr} {rest : List (List Expr)}
    (h : ∀ parts ∈ first :: rest, s <+: parts) : s <+: rest.foldl commonPrefix first := by
  induction rest generalizing first with
  | nil => exact h first List.mem_cons_self
  | cons bs rest ih =>
    obtain ⟨hfirst, hbs, hrest⟩ := List.forall_mem_cons.1 h |>.imp_right List.forall_mem_cons.1
    exact ih (List.forall_mem_cons.2 ⟨prefix_commonPrefix hfirst hbs, hrest⟩)

theorem eq_map_of_mapM_concatParts? {partss : List (List Expr)}
    (h : es.mapM concatParts? = some partss) : es = partss.map .concat := by
  induction es generalizing partss with
  | nil =>
    obtain rfl : [] = partss := by simpa using h
    rfl
  | cons e rest ih =>
    rw [List.mapM_cons] at h
    obtain ⟨parts, hparts, h⟩ := Option.bind_eq_some_iff.1 h
    obtain ⟨more, hmore, h⟩ := Option.bind_eq_some_iff.1 h
    obtain rfl := Option.some.inj h
    rw [List.map_cons, ← ih hmore]
    cases e with
    | concat => rw [Option.some.inj hparts]
    | _ => cases hparts

/-- Alternatives from which a common beginning is drawn are sequences that start with it. -/
theorem eq_map_of_liftPrefix? {shared : List Expr} {remainders : List (List Expr)}
    (h : liftPrefix? es = some (shared, remainders)) :
    remainders ≠ [] ∧ es = remainders.map fun parts => .concat (shared ++ parts) := by
  unfold liftPrefix? at h
  split at h
  · cases h
  · cases h
  · next first rest hparts =>
    have hstart := foldl_commonPrefix_prefix first rest
    split at h
    · cases h
    · obtain ⟨rfl, rfl⟩ := Prod.mk.inj (Option.some.inj h)
      refine ⟨List.cons_ne_nil _ _, ?_⟩
      rw [eq_map_of_mapM_concatParts? hparts, List.map_map]
      refine List.map_congr_left fun parts hmem => congrArg Expr.concat ?_
      exact (List.prefix_iff_eq_append.1 (hstart parts hmem)).symm

/-- Something is drawn only where all alternatives are sequences that start with the same part. -/
theorem exists_common_of_liftPrefix? {shared : List Expr} {remainders : List (List Expr)}
    (h : liftPrefix? es = some (shared, remainders)) :
    ∃ a, ∀ e ∈ es, ∃ rest, e = .concat (a :: rest) := by
  have hne : shared ≠ [] := by
    rintro rfl
    unfold liftPrefix? at h
    split at h
    · cases h
    · cases h
    · split at h
      · cases h
      · next hne => exact hne (Prod.mk.inj (Option.some.inj h)).1
  obtain ⟨-, rfl⟩ := eq_map_of_liftPrefix? h
  obtain ⟨a, more, rfl⟩ := List.exists_cons_of_ne_nil hne
  refine ⟨a, fun e he => ?_⟩
  obtain ⟨parts, -, rfl⟩ := List.mem_map.1 he
  exact ⟨more ++ parts, rfl⟩

theorem mapM_concatParts?_map (partss : List (List Expr)) :
    (partss.map Expr.concat).mapM concatParts? = some partss := by
  induction partss with
  | nil => rfl
  | cons parts rest ih =>
    rw [List.map_cons, List.mapM_cons, ih]
    rfl

/-- Something is drawn in front of sequences that all start with the same part. -/
theorem liftPrefix?_ne_none {a : Expr} (hne : es ≠ [])
    (h : ∀ e ∈ es, ∃ rest, e = .concat (a :: rest)) : liftPrefix? es ≠ none := by
  obtain ⟨partss, rfl⟩ : ∃ partss : List (List Expr), es = partss.map Expr.concat := by
    refine ⟨es.map fun e => (concatParts? e).getD [], ?_⟩
    rw [List.map_map]
    refine (List.map_id es).symm.trans (List.map_congr_left fun e he => ?_)
    obtain ⟨rest, rfl⟩ := h e he
    rfl
  have hstart : ∀ parts ∈ partss, [a] <+: parts := by
    intro parts hparts
    obtain ⟨rest, heq⟩ := h _ (List.mem_map_of_mem hparts)
    rw [Expr.concat.inj heq]
    exact List.prefix_append [a] rest
  rw [liftPrefix?, mapM_concatParts?_map]
  cases partss with
  | nil => exact absurd rfl hne
  | cons first rest =>
    obtain ⟨more, hmore⟩ := prefix_foldl_commonPrefix hstart
    simp only [← hmore]
    exact Option.some_ne_none _

/-- What remains of alternatives does not start with the same part everywhere: it would have been
drawn in front as well. -/
theorem not_common_of_liftPrefix? {shared : List Expr} {remainders : List (List Expr)}
    (h : liftPrefix? es = some (shared, remainders)) (a : Expr) :
    ¬ ∀ parts ∈ remainders, ∃ rest, parts = a :: rest := by
  intro hall
  unfold liftPrefix? at h
  split at h
  · cases h
  · cases h
  · next first rest hparts =>
    have hstart := foldl_commonPrefix_prefix first rest
    have hlongest (s : List Expr) (hs : ∀ parts ∈ first :: rest, s <+: parts) :
        s <+: rest.foldl commonPrefix first := prefix_foldl_commonPrefix hs
    split at h
    · cases h
    · obtain ⟨rfl, rfl⟩ := Prod.mk.inj (Option.some.inj h)
      generalize rest.foldl commonPrefix first = shared at hstart hlongest hall
      -- with this part the beginning would be longer than the longest
      have hlonger : shared ++ [a] <+: shared := by
        refine hlongest _ fun parts hmem => ?_
        obtain ⟨more, hmore⟩ := hall _ (List.mem_map_of_mem hmem)
        refine ⟨more, ?_⟩
        rw [List.append_assoc, List.singleton_append, ← hmore]
        exact (List.prefix_iff_eq_append.1 (hstart parts hmem))
      have hlength := hlonger.length_le
      rw [List.length_append, List.length_singleton] at hlength
      omega

/-- What is drawn in front of branches, and what remains of them, was there before. -/
theorem forall_of_liftPrefix? {shared : List Expr} {remainders : List (List Expr)}
    (h : ∀ parts, .concat parts ∈ es → ∀ p ∈ parts, P p)
    (hlift : liftPrefix? es = some (shared, remainders)) :
    (∀ p ∈ shared, P p) ∧ ∀ parts ∈ remainders, ∀ p ∈ parts, P p := by
  obtain ⟨hne, rfl⟩ := eq_map_of_liftPrefix? hlift
  have hparts : ∀ parts ∈ remainders, ∀ p ∈ shared ++ parts, P p :=
    fun parts hmem => h _ (List.mem_map.2 ⟨parts, hmem, rfl⟩)
  constructor
  · exact fun p hp => hparts _ (List.head_mem hne) p (List.mem_append_left _ hp)
  · exact fun parts hmem p hp => hparts parts hmem p (List.mem_append_right _ hp)

/-! ## Choices -/

/-- What a choice can be: nothing, one expression, a set, alternatives without a common beginning,
or such a beginning with the choice between what remains behind it. -/
theorem choiceWithin_cases {depth : Nat}
    (hfail : es.flatMap branchesOf = [] → P fail)
    (hone : ∀ e, es.flatMap branchesOf = [e] → P e)
    (hset : ∀ members, commonSet? (es.flatMap branchesOf) = some members → P (ofSet members true))
    (halternation : es.flatMap branchesOf ≠ [] → liftPrefix? (es.flatMap branchesOf) = none →
      P (.alternation (es.flatMap branchesOf)))
    (hdrawn : ∀ shared remainders,
      liftPrefix? (es.flatMap branchesOf) = some (shared, remainders) →
        P (sequence (shared ++ [choiceWithin depth (remainders.map sequence)]))) :
    P (choiceWithin (depth + 1) es) := by
  rw [choiceWithin]
  generalize es.flatMap branchesOf = branches at *
  rcases branches with _ | ⟨e, _ | ⟨d, rest⟩⟩
  · exact hfail rfl
  · exact hone e rfl
  · simp only
    cases hcommon : commonSet? (e :: d :: rest) with
    | some members => exact hset members hcommon
    | none =>
      cases hlift : liftPrefix? (e :: d :: rest) with
      | none => exact halternation (List.cons_ne_nil _ _) hlift
      | some lifted => exact hdrawn lifted.1 lifted.2 hlift

/-- A property of sets, one that goes into sequences and comes out of them, and goes into
alternatives and comes out of them, holds of the choice between expressions that have it. -/
theorem choice_induction (hset : ∀ members unicode, P (ofSet members unicode))
    (hsequence : ∀ es : List Expr, (∀ e ∈ es, P e) → P (sequence es))
    (hconcat : ∀ parts, P (.concat parts) → ∀ p ∈ parts, P p)
    (halternation : ∀ branches, P (.alternation branches) ↔ ∀ b ∈ branches, P b)
    (h : ∀ e ∈ es, P e) : P (choice es) := by
  have hfail : P fail := hset .empty false
  have hflat (es : List Expr) (h : ∀ e ∈ es, P e) : P (flatChoice es) := by
    unfold flatChoice
    split
    · exact hfail
    · exact List.forall_mem_singleton.1 h
    · split
      · exact hset _ _
      · exact (halternation _).2 h
  have hbranches (e : Expr) (he : P e) : ∀ b ∈ e.branchesOf, P b := by
    unfold branchesOf
    split
    · exact (halternation _).1 he
    · exact List.forall_mem_singleton.2 he
  -- by induction on how often a beginning may still be drawn in front
  have hwithin (depth : Nat) : ∀ es : List Expr, (∀ e ∈ es, P e) → P (choiceWithin depth es) := by
    induction depth with
    | zero => exact hflat
    | succ depth ih =>
      intro es h
      have hall : ∀ b ∈ es.flatMap branchesOf, P b :=
        List.forall_mem_flatMap.2 fun e he => hbranches e (h e he)
      refine choiceWithin_cases ?_ ?_ ?_ ?_ ?_
      · intro _
        exact hfail
      · intro e heq
        exact hall e (heq ▸ List.mem_singleton_self e)
      · intro members _
        exact hset members true
      · intro _ _
        exact (halternation _).2 hall
      · intro shared remainders hlift
        obtain ⟨hshared, hremainders⟩ := forall_of_liftPrefix?
          (fun parts hparts => hconcat parts (hall _ hparts)) hlift
        refine hsequence _ (List.forall_mem_append.2 ⟨hshared, ?_⟩)
        refine List.forall_mem_singleton.2 (ih _ ?_)
        intro e he
        obtain ⟨parts, hmem, rfl⟩ := List.mem_map.1 he
        exact hsequence parts (hremainders parts hmem)
  exact hwithin 2 es h

/-- A set comes out as nothing at all, as a character or as a set. -/
theorem ofSet_induction (hliteral : ∀ c, P (.literal [c]))
    (hset : ∀ members unicode, P (.set members unicode)) (members : CharSet) (unicode : Bool) :
    P (ofSet members unicode) := by
  unfold ofSet
  split
  · exact hset _ _
  · split
    · exact hliteral _
    · exact hset _ _

/-- A repetition comes out as nothing, as what is repeated, or as a repetition of it. -/
theorem repeat_induction (hempty : P .empty) (he : P e)
    (hrepeated : ∀ least most greedy, P (.repeated e least most greedy)) (least : Nat)
    (most : Option Nat) (greedy : Bool) : P (e.repeat least most greedy) := by
  unfold «repeat»
  generalize (if e.greatestSize = some 0 then (min least 1, some ((most.map (min · 1)).getD 1))
    else (least, most)) = counts
  obtain ⟨least', most'⟩ := counts
  simp only
  split
  · exact hempty
  · split
    · exact he
    · exact hrepeated least' most' greedy

/-- A property that simplifying keeps. -/
structure Kept (P : Expr → Prop) : Prop where
  empty : P .empty
  literal (chars : List Char) : P (.literal chars)
  ofSet (members : CharSet) (unicode : Bool) : P (ofSet members unicode)
  «repeat» {e : Expr} (least : Nat) (most : Option Nat) (greedy : Bool) :
    P e → P (e.repeat least most greedy)
  capture {e : Expr} (index : Nat) : P e → P (.capture index e)
  sequence {es : List Expr} : (∀ e ∈ es, P e) → P (sequence es)
  choice {es : List Expr} : (∀ e ∈ es, P e) → P (choice es)

end ScanRules.Pattern.Expr
