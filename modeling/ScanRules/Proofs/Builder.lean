import ScanRules.Proofs.Pattern.Assertion
import ScanRules.Scanner.Builder

/-!
# What builders collect

Rules reach a builder through five kinds of calls, any of which may fail on the way. Whatever the
calls are, the rules that are collected are those whose patterns compile, in the order of the calls.

- `RuleSpec.fault?`: the error of a rule that is refused. Only its pattern and its flags count.
- `Rule.toSpec`: a rule as it would be written down. Nothing is lost by that.
- `Builder.Grown`: a builder holds further rules besides those of an earlier one. Only one builder
  does (`Builder.Grown.unique`).
- `Builder.forEach_addSpec`: rules in a row are added up to the first one that is refused.
- `Builder.Call`, `Builder.performAll`: calls of a builder.
- `Builder.Call.given`, `Builder.Call.added`: the rules that a call is given, and those of them that
  it adds.
- `Builder.collects_performAll`: what calls answer, and the scanner that is built behind them.
-/

namespace ScanRules

variable {S : Type}

/-! ## Written rules and compiled ones -/

/-- The error of a rule whose pattern does not compile. -/
def RuleSpec.fault? (spec : RuleSpec S) : Option Error :=
  match Pattern.compile spec.pattern spec.flags with
  | .ok _ => none
  | .error refusal => some (.ofRefusal spec.pattern refusal)

/-- The rule as it is added in a role: ignored rules have no names. -/
def RuleSpec.inRole (spec : RuleSpec S) : Role → RuleSpec S
  | .token => spec
  | .ignored => { spec with name := "" }

/-- The rule as it would be written down. -/
def Rule.toSpec (r : Rule S) : RuleSpec S :=
  { toStackUse := r.toStackUse, flags := r.pattern.flags, name := r.name, pattern := r.pattern.text }

/-- A rule is determined by what would be written down of it. -/
theorem Rule.toSpec_injective : Function.Injective (toSpec (S := S)) := by
  rintro ⟨use, name, pattern⟩ ⟨use', name', pattern'⟩ h
  simp only [toSpec, RuleSpec.mk.injEq, RuleOptions.mk.injEq] at h
  obtain ⟨⟨rfl, hflags⟩, rfl, htext⟩ := h
  obtain rfl : pattern = pattern' := Pattern.ext_text_flags htext hflags
  rfl

/-- So are lists of rules. -/
theorem Rule.eq_of_map_toSpec_eq {rules rules' : List (Rule S)}
    (h : rules.map toSpec = rules'.map toSpec) : rules = rules' :=
  (List.map_inj_right fun _ _ heq => toSpec_injective heq).1 h

/-- A single call is made as it is. -/
theorem Outcome.forEach_singleton {State Arg : Type}
    (call : Arg → State → Outcome S State (Except Error Unit)) (arg : Arg) (s : State) :
    forEach call [arg] s = call arg s := by
  rw [forEach]
  obtain ⟨answer, after, events⟩ := call arg s
  cases answer with
  | error e => rfl
  | ok u => simp [forEach, afterEvents]

namespace Builder

variable {b : Builder S} {entry : Role × RuleSpec S}

/-- A rule whose pattern does not compile is refused, and nothing changes. -/
theorem addSpec_of_fault {e : Error} (h : entry.2.fault? = some e) (b : Builder S) :
    b.addSpec entry = ⟨.error e, b, []⟩ := by
  unfold RuleSpec.fault? at h
  unfold addSpec declare Rule.make
  cases hcompile : Pattern.compile entry.2.pattern entry.2.flags with
  | ok p => simp only [hcompile, reduceCtorEq] at h
  | error refusal =>
    simp only [hcompile, Option.some.injEq] at h
    simp only [h]

/-- Any other rule is added as it is written. -/
theorem exists_addSpec_eq (h : entry.2.fault? = none) (b : Builder S) :
    ∃ r : Rule S, r.toSpec = entry.2.inRole entry.1 ∧
      b.addSpec entry = ⟨.ok (), b.insert entry.1 r, [.compiled r.pattern, b.inserted entry.1 r]⟩ := by
  obtain ⟨role, spec⟩ := entry
  unfold RuleSpec.fault? at h
  unfold addSpec declare Rule.make
  cases hcompile : Pattern.compile spec.pattern spec.flags with
  | error refusal => simp only [hcompile, reduceCtorEq] at h
  | ok p =>
    -- a compiled pattern still has its text and its flags, so nothing of the rule is lost
    obtain ⟨htext, hflags⟩ := Pattern.compile_eq_ok hcompile
    cases role with
    | token => exact ⟨_, by rw [Rule.toSpec, htext, hflags]; rfl, rfl⟩
    | ignored => exact ⟨_, by rw [Rule.toSpec, htext, hflags]; rfl, rfl⟩

/-! ## What a builder holds -/

/-- The rules in one role, as they are added. -/
def specsOf (role : Role) (entries : List (Role × RuleSpec S)) : List (RuleSpec S) :=
  (entries.filter fun x => x.1 = role).map fun x => x.2.inRole role

@[simp] theorem specsOf_append (role : Role) (entries more : List (Role × RuleSpec S)) :
    specsOf role (entries ++ more) = specsOf role entries ++ specsOf role more := by
  simp [specsOf]

/-- The later builder holds what the earlier one does, and these rules behind that. -/
structure Grown (entries : List (Role × RuleSpec S)) (b after : Builder S) : Prop where
  rules : after.rules.map Rule.toSpec = b.rules.map Rule.toSpec ++ specsOf .token entries
  ignored : after.ignored.map Rule.toSpec = b.ignored.map Rule.toSpec ++ specsOf .ignored entries

namespace Grown

variable {entries more : List (Role × RuleSpec S)} {mid after other : Builder S}

theorem refl (b : Builder S) : Grown [] b b where
  rules := (List.append_nil _).symm
  ignored := (List.append_nil _).symm

theorem insert {r : Rule S} (h : r.toSpec = entry.2.inRole entry.1) (b : Builder S) :
    Grown [entry] b (b.insert entry.1 r) := by
  obtain ⟨role, spec⟩ := entry
  cases role with
  | token => exact ⟨by simp [Builder.insert, specsOf, h], by simp [Builder.insert, specsOf]⟩
  | ignored => exact ⟨by simp [Builder.insert, specsOf], by simp [Builder.insert, specsOf, h]⟩

theorem trans (h : Grown entries b mid) (hmore : Grown more mid after) :
    Grown (entries ++ more) b after where
  rules := by rw [hmore.rules, h.rules, specsOf_append, List.append_assoc]
  ignored := by rw [hmore.ignored, h.ignored, specsOf_append, List.append_assoc]

/-- What a builder holds in the end is determined by the rules in either role. -/
theorem unique (h : Grown entries b after) (hother : Grown more b other)
    (hrules : specsOf .token entries = specsOf .token more)
    (hignored : specsOf .ignored entries = specsOf .ignored more) : after = other := by
  have hr : after.rules = other.rules :=
    Rule.eq_of_map_toSpec_eq (by rw [h.rules, hother.rules, hrules])
  have hi : after.ignored = other.ignored :=
    Rule.eq_of_map_toSpec_eq (by rw [h.ignored, hother.ignored, hignored])
  obtain ⟨rules, ignored⟩ := after
  exact congr (congrArg Builder.mk hr) hi

/-- A builder holds the same ignored rules as before if no further ones are among the rules. -/
theorem ignored_eq (h : Grown entries b after) (hnone : specsOf .ignored entries = []) :
    after.ignored = b.ignored :=
  Rule.eq_of_map_toSpec_eq (by rw [h.ignored, hnone, List.append_nil])

end Grown

/-! ## Rules in a row -/

/-- The answer of a call that has met this error, or none. -/
def answerOf : Option Error → Except Error Unit
  | none => .ok ()
  | some e => .error e

theorem answerOf_eq_error_iff {fault : Option Error} {e : Error} :
    answerOf fault = .error e ↔ fault = some e := by
  cases fault <;> simp [answerOf]

/-- The error of the first rule that is refused. -/
def fault? (entries : List (Role × RuleSpec S)) : Option Error :=
  entries.findSome? fun x => x.2.fault?

/-- The rules in front of the first one that is refused. -/
def sound (entries : List (Role × RuleSpec S)) : List (Role × RuleSpec S) :=
  entries.takeWhile fun x => x.2.fault?.isNone

theorem sound_append_of_sound {front : List (Role × RuleSpec S)}
    (hfront : ∀ x ∈ front, x.2.fault? = none) (back : List (Role × RuleSpec S)) :
    sound (front ++ back) = front ++ sound back :=
  List.takeWhile_append_of_pos fun x hx => Option.isNone_iff_eq_none.2 (hfront x hx)

theorem sound_eq_self {whole : List (Role × RuleSpec S)} (h : ∀ x ∈ whole, x.2.fault? = none) :
    sound whole = whole := by
  have hnil : sound (whole ++ []) = whole ++ [] := sound_append_of_sound h []
  rwa [List.append_nil] at hnil

theorem sound_append_cons {front : List (Role × RuleSpec S)} {e : Error}
    (hfront : ∀ x ∈ front, x.2.fault? = none) (hentry : entry.2.fault? = some e)
    (back : List (Role × RuleSpec S)) : sound (front ++ entry :: back) = front := by
  have hstop : sound (entry :: back) = [] := by simp [sound, hentry]
  rw [sound_append_of_sound hfront, hstop, List.append_nil]

/-- If a rule is refused, the rules part into those in front of the first such one, and it. -/
theorem exists_append_of_fault? {entries : List (Role × RuleSpec S)} {e : Error}
    (h : fault? entries = some e) :
    ∃ entry back, entries = sound entries ++ entry :: back ∧ entry.2.fault? = some e ∧
      ∀ x ∈ sound entries, x.2.fault? = none := by
  obtain ⟨front, entry, back, rfl, hentry, hfront⟩ := List.findSome?_eq_some_iff.1 h
  refine ⟨entry, back, ?_⟩
  rw [sound_append_cons hfront hentry]
  exact ⟨rfl, hentry, hfront⟩

/-- Behind a rule that is refused, it does not matter what else there is. -/
theorem sound_append {entries : List (Role × RuleSpec S)} {e : Error} (h : fault? entries = some e)
    (more : List (Role × RuleSpec S)) : sound (entries ++ more) = sound entries := by
  obtain ⟨entry, back, hparts, hentry, hfront⟩ := exists_append_of_fault? h
  have hall : entries ++ more = sound entries ++ entry :: (back ++ more) := by
    rw [← List.cons_append, ← List.append_assoc, ← hparts]
  rw [hall, sound_append_cons hfront hentry]

/-- Rules in a row are added up to the first one that is refused. By induction on them: a rule that
is refused ends the calls, and any other one is added before the rest. -/
theorem forEach_addSpec (entries : List (Role × RuleSpec S)) :
    ∀ b : Builder S,
      (Outcome.forEach addSpec entries b).answer = answerOf (fault? entries) ∧
        Grown (sound entries) b (Outcome.forEach addSpec entries b).after := by
  induction entries with
  | nil => exact fun b => ⟨rfl, .refl b⟩
  | cons entry entries ih =>
    intro b
    cases hentry : entry.2.fault? with
    | some e =>
      have hsound : sound (entry :: entries) = [] := by simp [sound, hentry]
      have hfault : fault? (entry :: entries) = some e := by simp [fault?, hentry]
      rw [hsound, hfault]
      simp only [Outcome.forEach, addSpec_of_fault hentry]
      exact ⟨rfl, .refl b⟩
    | none =>
      have hsound : sound (entry :: entries) = [entry] ++ sound entries := by
        simp [sound, hentry]
      have hfault : fault? (entry :: entries) = fault? entries := by simp [fault?, hentry]
      obtain ⟨r, hr, hadd⟩ := exists_addSpec_eq hentry b
      obtain ⟨hanswer, hgrown⟩ := ih (b.insert entry.1 r)
      rw [hsound, hfault]
      simp only [Outcome.forEach, hadd, Outcome.afterEvents_answer, Outcome.afterEvents_after]
      exact ⟨hanswer, (Grown.insert hr b).trans hgrown⟩

/-! ## Calls -/

/-- A call that rules reach a builder through. -/
inductive Call (S : Type) where
  | add (name pattern : String)
  | addWith (name pattern : String) (options : RuleOptions S)
  | ignore (pattern : String)
  | ignoreWith (pattern : String) (options : RuleOptions S)
  | addRuleSet (set : RuleSet S)

namespace Call

/-- Makes the call. -/
def perform : Call S → Builder S → Outcome S (Builder S) (Except Error Unit)
  | add name pattern => Builder.add name pattern
  | addWith name pattern options => Builder.addWith name pattern options
  | ignore pattern => Builder.ignore pattern
  | ignoreWith pattern options => Builder.ignoreWith pattern options
  | addRuleSet set => Builder.addRuleSet set

/-- The rules that the call is given, in the order in which they are added. -/
def given : Call S → List (Role × RuleSpec S)
  | add name pattern => [(.token, { name, pattern })]
  | addWith name pattern options => [(.token, { options with name, pattern })]
  | ignore pattern => [(.ignored, { pattern })]
  | ignoreWith pattern options => [(.ignored, { options with pattern })]
  | addRuleSet set => entries set

/-- The rules that the call adds. -/
def added (call : Call S) : List (Role × RuleSpec S) := sound call.given

/-- All calls add the rules that they are given in the same way. -/
theorem perform_eq (call : Call S) (b : Builder S) :
    call.perform b = Outcome.forEach addSpec call.given b := by
  cases call with
  | add | addWith | ignore | ignoreWith => exact (Outcome.forEach_singleton _ _ b).symm
  | addRuleSet set => rfl

theorem answer_perform (call : Call S) (b : Builder S) :
    (call.perform b).answer = answerOf (fault? call.given) := by
  rw [perform_eq]
  exact (forEach_addSpec call.given b).1

theorem grown_perform (call : Call S) (b : Builder S) :
    Grown call.added b (call.perform b).after := by
  rw [perform_eq]
  exact (forEach_addSpec call.given b).2

end Call

/-- Makes the calls one after the other, whatever they answer. -/
def performAll : List (Call S) → Builder S → Outcome S (Builder S) (List (Except Error Unit))
  | [], b => ⟨[], b, []⟩
  | call :: calls, b =>
    let o := call.perform b
    let rest := performAll calls o.after
    ⟨o.answer :: rest.answer, rest.after, o.events ++ rest.events⟩

theorem answer_performAll (calls : List (Call S)) :
    ∀ b : Builder S,
      (b.performAll calls).answer = calls.map fun call => answerOf (fault? call.given) := by
  induction calls with
  | nil => exact fun _ => rfl
  | cons call calls ih =>
    intro b
    rw [performAll, List.map_cons, ih, Call.answer_perform]

/-- Behind any calls, a builder holds what each of them has added. -/
theorem grown_performAll (calls : List (Call S)) :
    ∀ b : Builder S, Grown (calls.flatMap Call.added) b (b.performAll calls).after := by
  induction calls with
  | nil => exact .refl
  | cons call calls ih => exact fun b => (call.grown_perform b).trans (ih _)

/-! ## What calls come to -/

/-- The scanner that is built behind some calls has the rules that were there before, and then, in
the order of the calls, those that each call has added. -/
structure Collects (b : Builder S) (calls : List (Call S)) : Prop where
  answer : (b.performAll calls).answer = calls.map fun call => answerOf (fault? call.given)
  rules : (b.performAll calls).after.build.answer.rules.map Rule.toSpec =
    b.rules.map Rule.toSpec ++ specsOf .token (calls.flatMap Call.added)
  ignored : (b.performAll calls).after.build.answer.ignored.map Rule.toSpec =
    b.ignored.map Rule.toSpec ++ specsOf .ignored (calls.flatMap Call.added)

/-- A call that is given one rule fails iff the pattern does not compile under its flags. Then it
leaves the builder as it was. -/
structure Decides (b : Builder S) (call : Call S) (spec : RuleSpec S) : Prop where
  refuses : ∀ refusal, Pattern.compile spec.pattern spec.flags = .error refusal →
    call.perform b = ⟨.error (.ofRefusal spec.pattern refusal), b, []⟩
  accepts : ∀ p, Pattern.compile spec.pattern spec.flags = .ok p → (call.perform b).answer = .ok ()

/-- The rules of a set are added up to one that is refused. No ignored ones are added if a rule for
tokens is among those that are at fault. -/
structure StopsAt (b : Builder S) (set : RuleSet S) (e : Error) : Prop where
  parts : ∃ entry back, entries set = sound (entries set) ++ entry :: back ∧
    entry.2.fault? = some e ∧ ∀ x ∈ sound (entries set), x.2.fault? = none
  grown : Grown (sound (entries set)) b (b.addRuleSet set).after
  ignored : (∃ spec ∈ set.rules, spec.fault?.isSome) →
    (b.addRuleSet set).after.ignored = b.ignored

theorem collects (b : Builder S) (calls : List (Call S)) : b.Collects calls where
  answer := answer_performAll calls b
  rules := (grown_performAll calls b).rules
  ignored := (grown_performAll calls b).ignored

theorem decides {call : Call S} (hgiven : call.given = [entry]) (b : Builder S) :
    b.Decides call entry.2 := by
  have hperform : call.perform b = b.addSpec entry := by
    rw [call.perform_eq, hgiven, Outcome.forEach_singleton]
  constructor
  · intro refusal h
    have hfault : entry.2.fault? = some (.ofRefusal entry.2.pattern refusal) := by
      simp only [RuleSpec.fault?, h]
    rw [hperform, addSpec_of_fault hfault]
  · intro p h
    have hfault : entry.2.fault? = none := by simp only [RuleSpec.fault?, h]
    obtain ⟨r, -, hadd⟩ := exists_addSpec_eq hfault b
    rw [hperform, hadd]

/-- If a rule for tokens is at fault, no ignored rule of the set stands in front of the first fault. -/
theorem specsOf_ignored_sound {set : RuleSet S} (h : ∃ spec ∈ set.rules, spec.fault?.isSome) :
    specsOf .ignored (sound (entries set)) = [] := by
  obtain ⟨spec, hspec, hfault⟩ := h
  have hsome : fault? (set.rules.map (Role.token, ·)) ≠ none := by
    intro hnone
    have hspec' := List.findSome?_eq_none_iff.1 hnone _ (List.mem_map_of_mem hspec)
    rw [hspec'] at hfault
    cases hfault
  obtain ⟨e, he⟩ := Option.ne_none_iff_exists'.1 hsome
  -- the first fault is among the rules for tokens, and only such rules stand in front of it
  rw [entries, sound_append he, specsOf, List.map_eq_nil_iff, List.filter_eq_nil_iff]
  intro x hx
  obtain ⟨_, -, rfl⟩ := List.mem_map.1 ((List.takeWhile_sublist _).subset hx)
  simp

theorem stopsAt {set : RuleSet S} {e : Error} (h : (b.addRuleSet set).answer = .error e) :
    b.StopsAt set e := by
  obtain ⟨hanswer, hgrown⟩ := forEach_addSpec (entries set) b
  have hfault : fault? (entries set) = some e := answerOf_eq_error_iff.1 (hanswer.symm.trans h)
  exact ⟨exists_append_of_fault? hfault, hgrown, fun h => hgrown.ignored_eq (specsOf_ignored_sound h)⟩

/-- Whatever the calls of a builder are, the scanner that is built in the end has the rules that the
calls have added, in their order. A call with one rule fails iff its pattern does not compile; a
call with a set fails with the error of the first rule of which that is true, and adds those in front
of it. So calls that add the same rules in either role lead to the same scanner. -/
theorem collects_performAll :
    (∀ (b : Builder S) (calls : List (Call S)), b.Collects calls) ∧
      (∀ (b : Builder S) (call : Call S) (entry : Role × RuleSpec S),
        call.given = [entry] → b.Decides call entry.2) ∧
      (∀ (b : Builder S) (set : RuleSet S) (e : Error),
        (b.addRuleSet set).answer = .error e → b.StopsAt set e) ∧
      ∀ (b : Builder S) (calls calls' : List (Call S)),
        specsOf .token (calls.flatMap Call.added) = specsOf .token (calls'.flatMap Call.added) →
        specsOf .ignored (calls.flatMap Call.added) = specsOf .ignored (calls'.flatMap Call.added) →
        (b.performAll calls).after.build.answer = (b.performAll calls').after.build.answer := by
  refine ⟨collects, fun b call entry h => decides h b, fun b set e h => stopsAt h, ?_⟩
  intro b calls calls' hrules hignored
  have hsame : (b.performAll calls).after = (b.performAll calls').after :=
    (grown_performAll calls b).unique (grown_performAll calls' b) hrules hignored
  rw [hsame]

/-- A set with a rule that is refused between two that would not be. -/
def broken : RuleSet String where
  rules := [{ name := "STAR", pattern := "[*]", push := ["inside"] },
    { name := "GROUP", pattern := "(" }, { name := "DIGIT", pattern := "[0-9]" }]
  ignored := [{ pattern := "#" }]

/-- Calls of which the first and the last one fail. -/
def clumsy : List (Call String) :=
  [.addWith "LIST" "[a" {}, .add "WORD" "[a-z]+",
    .ignoreWith " +" { state := some "inside", pop := true }, .addRuleSet broken]

/-- A call without failures that adds the same rules. -/
def neat : List (Call String) :=
  [.addRuleSet
    { rules := [{ name := "WORD", pattern := "[a-z]+" },
        { name := "STAR", pattern := "[*]", push := ["inside"] }]
      ignored := [{ name := "BLANK", pattern := " +", state := some "inside", pop := true }] }]

/-- Clumsy calls lead to what a neat call leads to. Of the broken set, one rule is added. -/
theorem collects_performAll_clumsy :
    let b : Builder String := .empty
    (b.performAll clumsy).answer.map (·.toBool) = [false, true, true, false] ∧
      (b.performAll clumsy).after.build.answer.rules.map (·.name) = ["WORD", "STAR"] ∧
      (b.performAll clumsy).after.build.answer = (b.performAll neat).after.build.answer ∧
      b.Collects clumsy ∧ b.Decides (.add "LIST" "[a") { name := "LIST", pattern := "[a" } ∧
      ∃ e, b.StopsAt broken e ∧ (b.addRuleSet broken).after.rules.length = 1 := by
  intro b
  obtain ⟨hcollects, hdecides, hstops, hsame⟩ := collects_performAll (S := String)
  have hfails : (b.addRuleSet broken).answer.toBool = false := by decide +kernel
  obtain ⟨e, he⟩ : ∃ e, (b.addRuleSet broken).answer = .error e := by
    cases h : (b.addRuleSet broken).answer with
    | error e => exact ⟨e, rfl⟩
    | ok u => rw [h] at hfails; cases hfails
  refine ⟨by decide +kernel, by decide +kernel, ?_, hcollects b clumsy, ?_, e, hstops b broken e he,
    by decide +kernel⟩
  · exact hsame b clumsy neat (by decide +kernel) (by decide +kernel)
  · exact hdecides b (.add "LIST" "[a") (.token, { name := "LIST", pattern := "[a" }) rfl

end Builder

end ScanRules
