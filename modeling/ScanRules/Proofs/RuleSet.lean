import ScanRules.Proofs.Json.Members

/-!
# Rule sets and their written form

What is left out of a written rule comes back when the rule is read: for each field, the value that
is left out is the one that a missing member stands for.

- `RuleSpec.draft`, `RuleSpec.finish_draft`: the fields of a rule that are written, and the rule
  that is made of them.
- `RuleSet.decode_encode`: rule sets are read as they were written.
-/

namespace ScanRules

open Json

theorem Flags.eq_empty_of_isEmpty {f : Flags} (h : f.isEmpty) : f = .empty := by
  obtain ⟨bits⟩ := f
  exact congrArg Flags.mk (by simpa [Flags.isEmpty] using h)

variable {S : Type}

namespace RuleSpec

/-- The fields of a rule that are written. -/
def draft (r : RuleSpec S) : Draft S where
  name := given (r.name = "") r.name
  pattern := some r.pattern
  flags := given r.flags.isEmpty r.flags
  state := given r.state.isNone r.state
  pop := given (!r.pop) r.pop
  push := given r.push.isEmpty r.push

variable [Codec S]

/-- The rule is made of the fields that are written. -/
theorem finish_draft (r : RuleSpec S) : shape.finish r.draft = .ok r := by
  have hname : (given (r.name = "") r.name).getD "" = r.name := getD_given (by simp)
  have hflags : (given r.flags.isEmpty r.flags).getD .empty = r.flags :=
    getD_given Flags.eq_empty_of_isEmpty
  have hstate : (given r.state.isNone r.state).getD none = r.state := getD_given (by simp)
  have hpop : (given (!r.pop) r.pop).getD false = r.pop := getD_given (by simp)
  have hpush : (given r.push.isEmpty r.push).getD [] = r.push := getD_given (by simp)
  simp only [shape, draft, hname, hflags, hstate, hpop, hpush]

variable [Lawful S] [NeverNull S]

/-- The members of a rule, as it is written, fill the fields that are written. -/
theorem fills_draft (r : RuleSpec S) :
    let fields := (shape : Shape (Draft S) (RuleSpec S)).fields
    Fills fields {}
      (memberUnless (r.name = "") "name" r.name ++ [("pattern", toJson r.pattern)] ++
        memberUnless r.flags.isEmpty "flags" r.flags ++
        memberUnless r.state.isNone "state" r.state ++ memberUnless (!r.pop) "pop" r.pop ++
        memberUnless r.push.isEmpty "push" r.push) r.draft := by
  intro fields
  -- one field after the other, each with what is given in front of it
  have hname : Fills fields {} (memberUnless (r.name = "") "name" r.name)
      { name := r.draft.name } :=
    .memberUnless (Draft.mk · none none none none none) rfl rfl rfl _
  have hpattern : Fills fields { name := r.draft.name } [("pattern", toJson r.pattern)]
      { name := r.draft.name, pattern := some r.pattern } :=
    .member (Draft.mk r.draft.name · none none none none) rfl rfl rfl
  have hflags : Fills fields { name := r.draft.name, pattern := some r.pattern }
      (memberUnless r.flags.isEmpty "flags" r.flags)
      { r.draft with state := none, pop := none, push := none } :=
    .memberUnless (Draft.mk r.draft.name r.draft.pattern · none none none) rfl rfl rfl _
  have hstate : Fills fields { r.draft with state := none, pop := none, push := none }
      (memberUnless r.state.isNone "state" r.state) { r.draft with pop := none, push := none } :=
    .memberUnless (Draft.mk r.draft.name r.draft.pattern r.draft.flags · none none) rfl rfl rfl _
  have hpop : Fills fields { r.draft with pop := none, push := none }
      (memberUnless (!r.pop) "pop" r.pop) { r.draft with push := none } :=
    .memberUnless ({ r.draft with pop := ·, push := none }) rfl rfl rfl _
  have hpush : Fills fields { r.draft with push := none }
      (memberUnless r.push.isEmpty "push" r.push) r.draft :=
    .memberUnless ({ r.draft with push := · }) rfl rfl rfl _
  exact ((((hname.append hpattern).append hflags).append hstate).append hpop).append hpush

/-- Rules are read as they were written. -/
instance : Lawful (RuleSpec S) where
  read_render r rest _ := readRecord_of_fills r.fills_draft r.finish_draft rest

end RuleSpec

namespace RuleSet

variable [Codec S] [Lawful S] [NeverNull S]

/-- Rule sets are read as they were written. -/
instance : Lawful (RuleSet S) where
  read_render s rest _ := by
    have hrules : Fills (shape : Shape (Draft S) (RuleSet S)).fields {} [("rules", toJson s.rules)]
        { rules := some s.rules } :=
      .member (Draft.mk · none) rfl rfl rfl
    have hignored : Fills (shape : Shape (Draft S) (RuleSet S)).fields { rules := some s.rules }
        [("ignore", toJson s.ignored)] { rules := some s.rules, ignored := some s.ignored } :=
      .member (Draft.mk (some s.rules) ·) rfl rfl rfl
    exact readRecord_of_fills (hrules.append hignored) rfl rest

end RuleSet

/-- **Rule sets are read as they were written**, whatever texts, flags, states and numbers are in
them, be the states texts or numbers. So what has been read from any text does not change any more
when it is written and read again. -/
theorem RuleSet.roundTrips : RoundTrips (RuleSet String) ∧ RoundTrips (RuleSet Int64) :=
  ⟨roundTrips_of_lawful _, roundTrips_of_lawful _⟩

/-- A rule with an escaped pattern, a flag without a name and an empty state, laid out freely. -/
theorem RuleSet.roundTrips_free :
    let text := "\x7b \"ignore\" : [ ], \"rules\" : [ \x7b \"flags\" : \"0x80|SWAP_GREED | 0x1\",
      \"pattern\" : \"\\u00e9\\/\\u000b\", \"state\" : \"\" \x7d ] \x7d"
    let s : RuleSet String :=
      { rules := [{ pattern := "é/\x0b", flags := ⟨0x91⟩, state := some "" }] }
    decode (RuleSet String) text = .ok s ∧
      encode s = "\x7b\"rules\":[\x7b\"pattern\":\"é/\\u000b\"," ++
        "\"flags\":\"CASE_INSENSITIVE | SWAP_GREED | 0x80\",\"state\":\"\"\x7d],\"ignore\":[]\x7d" ∧
      ∃ s', decode (RuleSet String) (encode s) = .ok s' ∧ s' = s ∧ encode s' = encode s := by
  intro text s
  have htext : decode (RuleSet String) text = .ok s := by decide +kernel
  exact ⟨htext, by decide +kernel, roundTrips.1.2 text s htext⟩

end ScanRules
