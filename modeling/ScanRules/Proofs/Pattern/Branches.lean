import ScanRules.Proofs.Pattern.Relocation

/-!
# Machines of alternatives

The states of alternatives stand side by side in their machine and have the accepting state in
common. Each alternative matches there what it matches in a machine of its own.

- `Builder.Moved.copied`: states that have been added to two builders, in their machines.
- `Machine.matchFrom_buildEach`: what is matched from the starts of several expressions.
- `Machine.match?_alternation`: alternatives match what the first of them does that matches at all.
-/

namespace ScanRules.Pattern

variable {m p : Machine} {σ : Nat → Nat} {b c b' c' : Builder} {before : Option Char}
  {text : List Char}

/-! ## States in their machines -/

theorem Machine.state_eq {i : Nat} {s : State} (h : m.states[i]? = some s) : m.state i = s := by
  rw [Machine.state, Array.getD_eq_getD_getElem?, h]
  rfl

/-- A machine whose first states are those of a builder. -/
def Machine.Starts (m : Machine) (b : Builder) : Prop := ∃ more, m.states = b ++ more

theorem Machine.Starts.state_eq (h : m.Starts b) {i : Nat} {s : State} (hs : b[i]? = some s) :
    m.state i = s := by
  obtain ⟨more, hmore⟩ := h
  obtain ⟨hlt, -⟩ := Array.getElem?_eq_some_iff.1 hs
  exact Machine.state_eq (by rw [hmore, Array.getElem?_append_left hlt, hs])

theorem Machine.Starts.of_moved {E : Nat → Prop} (h : m.Starts b')
    (hmoved : Builder.Moved σ E b c b' c') : m.Starts b := by
  obtain ⟨more, hmore⟩ := h
  obtain ⟨block, rfl, -, -⟩ := hmoved
  exact ⟨block ++ more, by rw [hmore, Array.append_assoc]⟩

/-- The accepting state is a part of its own. -/
theorem Machine.closed_accept (hzero : m.state 0 = .accept) : m.Closed (· = 0) := by
  rintro i rfl j hj
  rw [hzero] at hj
  cases hj

namespace Builder

/-- States that lead to each other and to states of a part enlarge the part. -/
theorem Moved.closed_of_closed {E T : Nat → Prop} (h : Moved σ E b c b' c') (hm : m.Starts b')
    (hT : m.Closed T) (hE : ∀ j, E j → T j) : m.Closed (Inside T b b') := by
  intro i hi j hj
  obtain ⟨block, rfl, -, htargets⟩ := h
  rcases hi with hi | ⟨hle, hlt⟩
  · exact .inl (hT i hi j hj)
  · have hget : (b ++ block)[i]? = some (b ++ block)[i] := Array.getElem?_eq_getElem hlt
    rw [hm.state_eq hget, Array.getElem_append_right hle] at hj
    exact (htargets _ (Array.getElem_mem _) j hj).imp_left (hE j)

/-- States that lead to each other and to the accepting state are a part of their machine. -/
theorem Moved.closed (h : Moved σ (· = 0) b c b' c') (hm : m.Starts b')
    (hzero : m.state 0 = .accept) : m.Closed (Inside (· = 0) b b') :=
  h.closed_of_closed hm (Machine.closed_accept hzero) fun _ => id

/-- States that have been added to two builders are copies of each other in the machines. -/
theorem Moved.copied (h : Moved σ (· = 0) b c b' c') (hσ : Fits σ b c) (hσzero : σ 0 = 0)
    (hc : 0 < c.size) (hp : p.Starts b') (hm : m.Starts c') (hpzero : p.state 0 = .accept)
    (hmzero : m.state 0 = .accept) : p.Copied σ (Inside (· = 0) b b') m where
  closed := h.closed hp hpzero
  injective := by
    have hplace {i : Nat} (hi : b.size ≤ i) : σ i = c.size + (i - b.size) := by
      rw [← hσ, Nat.add_sub_cancel' hi]
    intro i j hi hj heq
    rcases hi with rfl | ⟨hi, -⟩ <;> rcases hj with rfl | ⟨hj, -⟩
    · rfl
    · rw [hplace hj, hσzero] at heq
      omega
    · rw [hplace hi, hσzero] at heq
      omega
    · rw [hplace hi, hplace hj] at heq
      omega
  state := by
    intro i hi
    obtain ⟨block, rfl, rfl, -⟩ := h
    rcases hi with rfl | ⟨hle, hlt⟩
    · rw [hσzero, hmzero, hpzero]
      rfl
    · obtain ⟨k, rfl⟩ := Nat.exists_eq_add_of_le hle
      have hk : k < block.size := by
        rw [Array.size_append] at hlt
        omega
      have hget : (b ++ block)[b.size + k]? = some block[k] := by
        rw [Array.getElem?_append_right hle, Nat.add_sub_cancel_left, Array.getElem?_eq_getElem hk]
      have hget' : (c ++ block.map (·.renamed σ))[c.size + k]? = some (block[k].renamed σ) := by
        rw [Array.getElem?_append_right (Nat.le_add_right _ _), Nat.add_sub_cancel_left,
          Array.getElem?_map, Array.getElem?_eq_getElem hk]
        rfl
      rw [hσ k, hm.state_eq hget', hp.state_eq hget]

end Builder

namespace Machine

open Builder Pattern.Expr

/-- The numbers of the states of a machine when they come behind others, the accepting state
apart. -/
def placed (size : Nat) : Nat → Nat
  | 0 => 0
  | i + 1 => size + i

/-- Where the states of an expression have been added to a machine, the match from their start is
the match of the expression. -/
theorem matchFrom_build (hzero : m.state 0 = .accept) (e : Expr) (hb : 0 < b.size)
    (hm : m.Starts (e.build 0 b).2) :
    m.matchFrom [(e.build 0 b).1] before text = (ofExpr e).match? before text := by
  have hfits : Fits (placed b.size) #[.accept] b := fun i => by
    rw [show (#[State.accept]).size + i = i + 1 from Nat.add_comm 1 i]
    rfl
  have halike := e.relocates_build hfits 0
  have hstarts : (ofExpr e).Starts (e.build 0 #[.accept]).2 := ⟨#[], by simp [ofExpr]⟩
  have hcopied := halike.moved.copied hfits rfl hb hstarts hm
    ((hstarts.of_moved halike.moved).state_eq rfl) hzero
  have hmatch := hcopied.matchFrom_eq (List.forall_mem_singleton.2 halike.inside) before text
  rw [match?_eq_matchFrom, List.map_singleton, ← halike.start] at *
  exact hmatch

/-- What is matched from the starts of several expressions is what the first of them matches that
matches at all. -/
theorem matchFrom_buildEach (hzero : m.state 0 = .accept) {es : List Expr} (hb : 0 < b.size)
    (hm : m.Starts (buildEach es 0 b).2) :
    m.matchFrom (buildEach es 0 b).1 before text =
      es.findSome? fun e => (ofExpr e).match? before text := by
  induction es generalizing b with
  | nil => exact m.run_nil_threads _ _ _ _
  | cons e rest ih =>
    have hfits (b : Builder) : Fits id b b := fun i => rfl
    have hfirst := e.relocates_build (hfits b) 0
    obtain ⟨-, hinside, hmoved⟩ := moved_buildEach rest (hfits (e.build 0 b).2) 0
    have hm' : m.Starts (e.build 0 b).2 := Starts.of_moved hm hmoved
    have hb' : 0 < (e.build 0 b).2.size := Nat.lt_of_lt_of_le hb hfirst.moved.size_le
    -- the first expression and the others have the accepting state in common and nothing else
    have hcommon : ∀ i, Inside (· = 0) b (e.build 0 b).2 i →
        Inside (· = 0) (e.build 0 b).2 (buildEach rest 0 (e.build 0 b).2).2 i →
        m.accepts i = true := by
      rintro i (rfl | ⟨-, hlt⟩) (hi | ⟨hle, -⟩)
      · rw [accepts, hzero]
      · rw [accepts, hzero]
      · rw [accepts, hi, hzero]
      · omega
    have hboth := matchFrom_append (hfirst.moved.closed hm' hzero) (hmoved.closed hm hzero) hcommon
      (List.forall_mem_singleton.2 hfirst.inside) hinside before text
    rw [matchFrom_build hzero e hb hm', ih hb' hm] at hboth
    rw [List.findSome?_cons]
    show m.matchFrom ([(e.build 0 b).1] ++ (buildEach rest 0 (e.build 0 b).2).1) before text = _
    rw [hboth]
    cases (ofExpr e).match? before text <;> rfl

/-- From a state that no thread rests in, a match is found as from those that follow it, if they do
not lead back to it. -/
theorem matchFrom_pass {S : Nat → Prop} {i : Nat} (hpasses : m.rests i = false) (hS : m.Closed S)
    (hi : ¬ S i) (before : Option Char) (text : List Char)
    (hnext : ∀ j ∈ m.successors before text.head? i, S j) :
    m.matchFrom [i] before text =
      m.matchFrom (m.successors before text.head? i) before text := by
  have hnew : ∀ j, S j → ((⟨0, []⟩ : Frontier).see i).seen.testBit j = false := by
    intro j hj
    have hne : i ≠ j := fun heq => hi (heq ▸ hj)
    rw [Frontier.see, Frontier.testBit_mark, Nat.zero_testBit, Bool.false_or, decide_eq_false hne]
  obtain ⟨g, hg, hthreads⟩ := hS.copied.exists_reached hnext hnew
  rw [List.map_id] at hg hthreads
  have hpass : Walks m before text.head? [i] ⟨0, []⟩ g :=
    .pass (Nat.zero_testBit i) hpasses (by rwa [List.append_nil])
  rw [matchFrom, matchFrom, reached_eq hpass, hthreads]
  rfl

/-- Alternatives match what the first of them does that matches at all. -/
theorem match?_alternation (es : List Expr) (before : Option Char) (text : List Char) :
    (ofExpr (.alternation es)).match? before text =
      es.findSome? fun e => (ofExpr e).match? before text := by
  let m := ofExpr (.alternation es)
  let b : Builder := #[.accept]
  have hstates : m.states = (buildEach es 0 b).2.push (.split (buildEach es 0 b).1) := rfl
  have hm : m.Starts (buildEach es 0 b).2 := ⟨_, hstates.trans Array.push_eq_append⟩
  have hroot : m.state m.start = .split (buildEach es 0 b).1 :=
    state_eq (hstates ▸ Array.getElem?_push_size)
  have hfits : Fits id b b := fun _ => rfl
  obtain ⟨-, hinside, hmoved⟩ := moved_buildEach es hfits 0
  have hzero : m.state 0 = .accept := (hm.of_moved hmoved).state_eq rfl
  have hb : 0 < b.size := Nat.one_pos
  rw [match?_eq_matchFrom, ← matchFrom_buildEach hzero hb hm]
  have hpasses : m.rests m.start = false := by rw [rests, hroot]
  have hchoices : m.successors before text.head? m.start = (buildEach es 0 b).1 := by
    rw [successors, hroot]
  rw [matchFrom_pass hpasses (hmoved.closed hm hzero) ?_ before text (hchoices ▸ hinside), hchoices]
  rintro (hstart | ⟨-, hlt⟩)
  · have hle := hmoved.size_le
    have hsize : m.start = (buildEach es 0 b).2.size := rfl
    omega
  · exact Nat.lt_irrefl _ hlt

end Machine

end ScanRules.Pattern
