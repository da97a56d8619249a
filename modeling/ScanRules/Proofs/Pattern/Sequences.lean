import ScanRules.Proofs.Pattern.Branches

/-!
# Machines of sequences

The constructor of sequences flattens them and joins neighbouring characters. The states of the
machine stay the same. What the first parts of a sequence match decides what is left for the others,
and if they can match in one way only, it is enough to know that way.

- `Expr.build_sequence`, `Machine.ofExpr_sequence`: a sequence is built as its parts are, one in
  front of the other.
- `Way`: how many characters are taken from the start of a text, and ways one behind the other.
- `Builder.OneWay`: a match goes one way through the states of a body, and then on.
- `Expr.rigid`, `Expr.oneWay_build`: expressions that can match in one way only.
- `Machine.exists_match?_concat_append`: sequences that start with such expressions.
-/

namespace ScanRules.Pattern

namespace Expr

theorem buildAll_append (as bs : List Expr) (next : Nat) (b : Builder) :
    buildAll (as ++ bs) next b = buildAll as (buildAll bs next b).1 (buildAll bs next b).2 := by
  induction as with
  | nil => rfl
  | cons e rest ih => rw [List.cons_append, buildAll, ih, buildAll]

theorem addChars_append (cs ds : List Char) (next : Nat) (b : Builder) :
    b.addChars next (cs ++ ds) =
      (b.addChars next ds).2.addChars (b.addChars next ds).1 cs := by
  induction cs with
  | nil => rfl
  | cons c rest ih => rw [List.cons_append, Builder.addChars, ih, Builder.addChars]

theorem buildAll_partsOf (e : Expr) : buildAll e.partsOf = e.build := by
  cases e <;> rfl

theorem buildAll_flatMap_partsOf (es : List Expr) :
    buildAll (es.flatMap partsOf) = buildAll es := by
  induction es with
  | nil => rfl
  | cons e rest ih =>
    funext next b
    rw [List.flatMap_cons, buildAll_append, ih, buildAll_partsOf, buildAll]

/-- Characters that are joined are built one behind the other. -/
theorem buildAll_joinPart (e : Expr) (rest : List Expr) :
    buildAll (joinPart e rest) = buildAll (e :: rest) := by
  unfold joinPart
  split
  · next cs ds more =>
    funext next b
    exact addChars_append cs ds (buildAll more next b).1 (buildAll more next b).2
  · rfl

theorem buildAll_foldr_joinPart (es : List Expr) :
    buildAll (es.foldr joinPart []) = buildAll es := by
  induction es with
  | nil => rfl
  | cons e rest ih =>
    funext next b
    rw [List.foldr_cons, buildAll_joinPart, buildAll, ih, buildAll]

/-- A sequence is built as its parts are, one in front of the other. -/
theorem build_sequence (es : List Expr) : (sequence es).build = buildAll es := by
  rw [← buildAll_flatMap_partsOf, ← buildAll_foldr_joinPart, sequence]
  rcases (es.flatMap partsOf).foldr joinPart [] with _ | ⟨e, _ | ⟨d, rest⟩⟩ <;> rfl

end Expr

namespace Machine

/-- The machine of a sequence is that of its parts, one behind the other. -/
theorem ofExpr_sequence (es : List Expr) : ofExpr (.sequence es) = ofExpr (.concat es) := by
  rw [ofExpr, ofExpr, Expr.build_sequence, Expr.build]

end Machine

/-! ## Ways -/

/-- A way to match: how many characters it takes from the start of a text behind a character. -/
abbrev Way := Option Char → List Char → Option Nat

namespace Way

/-- The character in front of what is left of a text when `n` characters have been taken. -/
def behind (before : Option Char) (text : List Char) (n : Nat) : Option Char :=
  (text.take n).getLast?.or before

/-- One way and then, behind it, another. -/
def andThen (w v : Way) : Way := fun before text =>
  (w before text).bind fun n => (v (behind before text n) (text.drop n)).map (n + ·)

/-- The way that takes nothing. -/
def skip : Way := fun _ _ => some 0

/-- The way that takes one character, a member of a set. -/
def take (s : CharSet) : Way := fun _ text => if text.head?.any s.has then some 1 else none

/-- The way that takes nothing where a condition is met. -/
def check (look : Look) : Way := fun before text =>
  if look.holds before text.head? then some 0 else none

theorem behind_add (before : Option Char) (text : List Char) (k n : Nat) :
    behind before text (k + n) = behind (behind before text k) (text.drop k) n := by
  rw [behind, behind, behind, List.take_add, List.getLast?_append, Option.or_assoc]

theorem skip_andThen (w : Way) : skip.andThen w = w := by
  funext before text
  show (w before text).map (0 + ·) = w before text
  simp only [Nat.zero_add, Option.map_id']

theorem andThen_assoc (u v w : Way) : (u.andThen v).andThen w = u.andThen (v.andThen w) := by
  funext before text
  simp only [andThen, Option.bind_assoc]
  cases u before text with
  | none => rfl
  | some k =>
    simp only [Option.bind_some]
    cases v (behind before text k) (text.drop k) with
    | none => rfl
    | some n =>
      simp only [Option.map_some, Option.bind_some, Option.map_map, Function.comp_def, behind_add,
        List.drop_drop, Nat.add_assoc]

theorem andThen_skip (w : Way) : w.andThen skip = w := by
  funext before text
  unfold andThen
  cases w before text <;> rfl

/-- A way in front of several others, of which the first that can be gone is gone, is in front of
each of them. -/
theorem andThen_findSome? {α : Type} (w : Way) (ways : α → Way) (xs : List α) :
    w.andThen (fun before text => xs.findSome? fun x => ways x before text) =
      fun before text => xs.findSome? fun x => w.andThen (ways x) before text := by
  funext before text
  unfold andThen
  cases w before text with
  | none => exact (List.findSome?_eq_none_iff.2 fun _ _ => rfl).symm
  | some n => exact List.map_findSome? ..

end Way

namespace Machine

variable {m : Machine} {T : Nat → Prop} {i next : Nat} {s : CharSet}

theorem reached_singleton (h : m.rests i = true) (before after : Option Char) :
    m.reached before after [i] = [i] :=
  reached_eq (.rest (Nat.zero_testBit i) h (.nil _))

/-- Characters that have been taken before are counted in. -/
theorem run_add (m : Machine) (fuel : Nat) (threads : List Nat) (k count : Nat)
    (best : Option Nat) (text : List Char) :
    m.run fuel threads (k + count) (best.map (k + ·)) text =
      (m.run fuel threads count best text).map (k + ·) := by
  induction text generalizing threads count best with
  | nil =>
    rw [run, run]
    split <;> rfl
  | cons c rest ih =>
    rw [run_cons, run_cons, ← ih, Nat.add_assoc]
    split <;> rfl

/-- At the accepting state a match is done. -/
theorem matchFrom_accept (hstate : m.state i = .accept) : m.matchFrom [i] = Way.skip := by
  have hrests : m.rests i = true := by rw [rests, hstate]
  have haccepts : m.accepts i = true := by rw [accepts, hstate]
  funext before text
  rw [matchFrom, reached_singleton hrests]
  cases text with
  | nil => rw [run, List.any_cons, haccepts]; rfl
  | cons c rest =>
    rw [run_cons, List.takeWhile_cons, List.any_cons, haccepts]
    exact m.run_nil_threads _ _ _ rest

/-- From a state that takes a character, a match takes it and goes on behind it. -/
theorem matchFrom_take (hstate : m.state i = .take s next) :
    m.matchFrom [i] = (Way.take s).andThen (m.matchFrom [next]) := by
  have hrests : m.rests i = true := by rw [rests, hstate]
  have haccepts : m.accepts i = false := by rw [accepts, hstate]
  funext before text
  rw [matchFrom, reached_singleton hrests]
  cases text with
  | nil =>
    rw [run, List.any_cons, haccepts]
    rfl
  | cons c rest =>
    have hnext : [i].filterMap (m.advance? c) = if s.has c then [next] else [] := by
      rw [List.filterMap_cons, advance?, hstate]
      by_cases hc : s.has c
      · simp only [if_pos hc, List.filterMap_nil]
      · simp only [if_neg hc, List.filterMap_nil]
    rw [run_cons, List.takeWhile_cons, haccepts, List.any_cons, haccepts]
    show m.run _ (m.advance _ c rest.head? [i]) (1 + 0) none rest = _
    rw [advance_eq_reached, hnext, Way.andThen, Way.take, List.head?_cons, Option.any_some]
    split
    · exact m.run_add _ _ 1 0 none rest
    · exact m.run_nil_threads _ _ _ _

/-- From a state that waits for a condition, a match goes on where it is met. -/
theorem matchFrom_check {look : Look} (hstate : m.state i = .check look next) (hT : m.Closed T)
    (hnext : T next) (hi : ¬ T i) :
    m.matchFrom [i] = (Way.check look).andThen (m.matchFrom [next]) := by
  funext before text
  have hpasses : m.rests i = false := by rw [rests, hstate]
  have hsuccessors : m.successors before text.head? i =
      if look.holds before text.head? then [next] else [] := by
    rw [successors, hstate]
  have hmem : ∀ j ∈ m.successors before text.head? i, T j := by
    intro j hj
    rw [hsuccessors] at hj
    split at hj
    · rwa [List.mem_singleton.1 hj]
    · cases hj
  rw [matchFrom_pass hpasses hT hi before text hmem, hsuccessors, Way.andThen, Way.check]
  split
  · exact congrFun (congrFun (Way.skip_andThen (m.matchFrom [next])) before) text |>.symm
  · exact m.run_nil_threads _ _ _ _

end Machine

/-! ## Bodies that are one way -/

namespace Builder

variable {body body' : Nat → Builder → Nat × Builder}

/-- There is one way through the states of a body: from their start, a match goes that way and on
behind it. The states behind the body do not lead back into it. -/
structure OneWay (body : Nat → Builder → Nat × Builder) : Prop where
  relocates : Relocates body
  exists_way : ∃ way : Way, ∀ ⦃m : Machine⦄ ⦃b : Builder⦄ ⦃T : Nat → Prop⦄ ⦃next : Nat⦄,
    m.Starts (body next b).2 → m.Closed T → T next → (∀ i, T i → i < b.size) →
      m.matchFrom [(body next b).1] = way.andThen (m.matchFrom [next])

/-- Where a state has been added, it has the next number. -/
theorem state_add {m : Machine} {b : Builder} {s : State} (h : m.Starts (b.add s).2) :
    m.state b.size = s :=
  h.state_eq Array.getElem?_push_size

theorem OneWay.skip : OneWay fun next b => (next, b) where
  relocates _ _ _ _ next := .refl _ _ _ next
  exists_way := ⟨.skip, fun m _ _ next _ _ _ _ => (Way.skip_andThen (m.matchFrom [next])).symm⟩

theorem OneWay.take (s : CharSet) : OneWay fun next b => b.add (.take s next) where
  relocates _ _ _ hσ _ := .add (.refl _ _ _ _) hσ fun _ hj => .inl (List.mem_singleton.1 hj)
  exists_way := ⟨.take s, fun _ _ _ _ hm _ _ _ => Machine.matchFrom_take (state_add hm)⟩

theorem OneWay.check (look : Look) : OneWay fun next b => b.add (.check look next) where
  relocates _ _ _ hσ _ := .add (.refl _ _ _ _) hσ fun _ hj => .inl (List.mem_singleton.1 hj)
  exists_way := by
    refine ⟨.check look, fun m b T next hm hT hnext hold => ?_⟩
    have hnew : ¬ T b.size := fun hsize => Nat.lt_irrefl _ (hold _ hsize)
    exact Machine.matchFrom_check (state_add hm) hT hnext hnew

/-- Two bodies, each of which is one way, are one way together. -/
theorem OneWay.comp (h : OneWay body) (h' : OneWay body') :
    OneWay fun next b => body (body' next b).1 (body' next b).2 where
  relocates _ _ _ hσ next := (h'.relocates hσ next).bind hσ h.relocates
  exists_way := by
    obtain ⟨way, hway⟩ := h.exists_way
    obtain ⟨way', hway'⟩ := h'.exists_way
    refine ⟨way.andThen way', fun m b T next hm hT hnext hold => ?_⟩
    have hfits (b : Builder) : Fits id b b := fun _ => rfl
    have hlater := h'.relocates (hfits b) next
    have hfirst := h.relocates (hfits (body' next b).2) (body' next b).1
    have hm' : m.Starts (body' next b).2 := Machine.Starts.of_moved hm hfirst.moved
    have hexit : ∀ j, j = next → T j := by
      rintro _ rfl
      exact hnext
    -- behind the first body there is the second one, and what is behind that
    have hT' : m.Closed (Inside T b (body' next b).2) :=
      Moved.closed_of_closed hlater.moved hm' hT hexit
    have hnext' : Inside T b (body' next b).2 (body' next b).1 :=
      hlater.inside.imp_left (hexit _)
    have hold' : ∀ i, Inside T b (body' next b).2 i → i < (body' next b).2.size := by
      rintro i (hi | ⟨-, hi⟩)
      · exact Nat.lt_of_lt_of_le (hold i hi) hlater.moved.size_le
      · exact hi
    rw [hway hm hT' hnext' hold', hway' hm' hT hnext hold, Way.andThen_assoc]

theorem OneWay.addChars (chars : List Char) : OneWay fun next b => b.addChars next chars := by
  induction chars with
  | nil => exact .skip
  | cons c rest ih => exact (OneWay.take (.single c)).comp ih

theorem OneWay.copies (h : OneWay body) (count : Nat) : OneWay (Builder.copies body count) := by
  induction count with
  | zero => exact .skip
  | succ count ih => exact ih.comp h

end Builder

namespace Expr

open Builder

mutual

/-- Can an expression match in one way only? Of repetitions, those with a fixed count can. -/
def rigid : Expr → Bool
  | .empty | .literal _ | .set _ _ | .look _ => true
  | .repeated body least most _ => most = some least && body.rigid
  | .capture _ body => body.rigid
  | .concat parts => allRigid parts
  | .alternation _ => false

/-- Can each of some expressions match in one way only? -/
def allRigid : List Expr → Bool
  | [] => true
  | e :: rest => e.rigid && allRigid rest

end

mutual

theorem oneWay_build : ∀ {e : Expr}, e.rigid = true → OneWay e.build
  | .empty, _ => .skip
  | .literal chars, _ => .addChars chars
  | .set members _, _ => .take members
  | .look condition, _ => .check condition
  | .repeated body least most greedy, h => by
    obtain ⟨hcount, hbody⟩ := Bool.and_eq_true_iff.1 h
    obtain rfl := of_decide_eq_true hcount
    have hbuild : build (.repeated body least (some least) greedy) = copies body.build least := by
      funext next b
      rw [build, Nat.sub_self]
      rfl
    rw [hbuild]
    exact (oneWay_build hbody).copies least
  | .capture _ body, h => oneWay_build (e := body) h
  | .concat _, h => oneWay_buildAll h

theorem oneWay_buildAll : ∀ {es : List Expr}, allRigid es = true → OneWay (buildAll es)
  | [], _ => .skip
  | _ :: _, h =>
    (oneWay_build (Bool.and_eq_true_iff.1 h).1).comp (oneWay_buildAll (Bool.and_eq_true_iff.1 h).2)

end

end Expr

namespace Machine

open Pattern.Expr Builder

/-- A sequence that starts with parts that can match in one way only goes that way, and then matches
what the rest of it does. -/
theorem exists_match?_concat_append {shared : List Expr} (h : allRigid shared = true) :
    ∃ way : Way, ∀ parts, (ofExpr (.concat (shared ++ parts))).match? =
      way.andThen (ofExpr (.concat parts)).match? := by
  obtain ⟨hrelocates, way, hway⟩ := oneWay_buildAll h
  refine ⟨way, fun parts => ?_⟩
  let m := ofExpr (.concat (shared ++ parts))
  let b : Builder := #[.accept]
  have hfits (b : Builder) : Fits id b b := fun _ => rfl
  have hlater := relocates_buildAll parts (hfits b) 0
  have hfirst := hrelocates (hfits (buildAll parts 0 b).2) (buildAll parts 0 b).1
  have hbuild : build (.concat (shared ++ parts)) 0 b =
      buildAll shared (buildAll parts 0 b).1 (buildAll parts 0 b).2 :=
    buildAll_append shared parts 0 b
  have hm : m.Starts (buildAll shared (buildAll parts 0 b).1 (buildAll parts 0 b).2).2 :=
    ⟨#[], by rw [← hbuild, Array.append_empty]; rfl⟩
  have hm' : m.Starts (buildAll parts 0 b).2 := hm.of_moved hfirst.moved
  have hzero : m.state 0 = .accept := (hm'.of_moved hlater.moved).state_eq rfl
  have hold : ∀ i, Inside (· = 0) b (buildAll parts 0 b).2 i → i < (buildAll parts 0 b).2.size := by
    rintro i (rfl | ⟨-, hi⟩)
    · exact Nat.lt_of_lt_of_le Nat.one_pos hlater.moved.size_le
    · exact hi
  have hstart : m.match? = m.matchFrom [(buildAll shared (buildAll parts 0 b).1
      (buildAll parts 0 b).2).1] := by
    rw [← hbuild]
    rfl
  have hrest : m.matchFrom [(buildAll parts 0 b).1] = (ofExpr (.concat parts)).match? := by
    funext before text
    exact matchFrom_build hzero (.concat parts) Nat.one_pos hm'
  rw [hstart, hway hm (hlater.moved.closed hm' hzero) hlater.inside hold, hrest]

end Machine

end ScanRules.Pattern
