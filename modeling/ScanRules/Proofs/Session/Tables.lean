import ScanRules.Proofs.Session.Interchange

/-!
# Rule tables

Which rules are tried depends on nothing but the top of the stack. So the rules of a scanner could
be kept in one table for each state, as start conditions are.

- `Rule.table`: the rules that may be tried where the stack has a given top.
- `Rule.firing?_table`: the rule that fires is the one that fires in the table of the top.
- `Rule.Reordered`: lists that differ by exchanges of rules that need different states.
- `Scanner.SameTables`, `Scanner.interchangeable_of_tables`: scanners with the same tables.
-/

namespace ScanRules

variable {S : Type} [DecidableEq S]

namespace Rule

/-- The rules of a list that may be tried where the stack has this top, if any: those that need no
state and those that need the one on top. -/
def table (top : Option S) (rules : List (Rule S)) : List (Rule S) :=
  rules.filter fun r => r.state = none ∨ r.state = top

/-- A rule that is not in the table of the top is passed over as if it were not there. -/
theorem firing?_table (rules : List (Rule S)) (states : List S) (before : Option Char)
    (text : List Char) :
    firing? (table states.head? rules) states before text = firing? rules states before text :=
  firing?_filter (fun _ _ he => decide_eq_true (eligible_iff.1 he)) before text

/-- Rules that need different states have been exchanged, any number of times. -/
inductive Reordered : List (Rule S) → List (Rule S) → Prop
  | nil : Reordered [] []
  | cons (r : Rule S) {rules rules' : List (Rule S)} : Reordered rules rules' →
    Reordered (r :: rules) (r :: rules')
  | swap {r q : Rule S} {s t : S} (rules : List (Rule S)) : r.state = some s → q.state = some t →
    s ≠ t → Reordered (r :: q :: rules) (q :: r :: rules)
  | trans {rules rules' rules'' : List (Rule S)} : Reordered rules rules' →
    Reordered rules' rules'' → Reordered rules rules''

omit [DecidableEq S] in
theorem Reordered.refl (rules : List (Rule S)) : Reordered rules rules := by
  induction rules with
  | nil => exact .nil
  | cons r rules ih => exact .cons r ih

/-- Exchanges of this kind are not seen in any table: it has at most one of the two rules. -/
theorem Reordered.table_eq {rules rules' : List (Rule S)} (h : Reordered rules rules')
    (top : Option S) : table top rules = table top rules' := by
  induction h with
  | nil => rfl
  | cons r _ ih => simp only [table, List.filter_cons] at ih ⊢; rw [ih]
  | @swap r q s t rules hr hq hne =>
    by_cases hs : some s = top
    · have hq' : ¬ some t = top := fun ht => hne (Option.some.inj (hs.trans ht.symm))
      simp [table, hr, hq, hs, hq']
    · simp [table, List.filter_cons, hr, hq, hs]
  | trans _ _ ih ih' => exact ih.trans ih'

end Rule

namespace Scanner

variable {scanner other : Scanner S}

/-- For every top of the stack, and for none, two scanners have the same rules to try, in the same
order. -/
structure SameTables (scanner other : Scanner S) : Prop where
  rules_eq : ∀ top : Option S, Rule.table top scanner.rules = Rule.table top other.rules
  ignored_eq : ∀ top : Option S, Rule.table top scanner.ignored = Rule.table top other.ignored

/-- One step of two scanners with the same tables. -/
theorem SameTables.step_eq (h : scanner.SameTables other) (c : Scan S) :
    c.step scanner = c.step other := by
  have hrules : c.firing? scanner.rules = c.firing? other.rules := by
    rw [Scan.firing?, Scan.firing?, ← Rule.firing?_table, h.rules_eq, Rule.firing?_table]
  have hignored : c.firing? scanner.ignored = c.firing? other.ignored := by
    rw [Scan.firing?, Scan.firing?, ← Rule.firing?_table, h.ignored_eq, Rule.firing?_table]
  exact Scan.step_eq_of_choice?_eq (Scan.choice?_congr hrules hignored)

/-- **Only the tables count**: scanners that have the same rules for every top of the stack, and for
none, come to the same on every text, request by request. In particular this is so if rules have
only been exchanged that need different states. -/
theorem interchangeable_of_tables (scanner other : Scanner S) :
    (scanner.SameTables other → scanner.Interchangeable other) ∧
      (Rule.Reordered scanner.rules other.rules → Rule.Reordered scanner.ignored other.ignored →
        scanner.Interchangeable other) := by
  have htables : scanner.SameTables other → scanner.Interchangeable other :=
    fun h => interchangeable_of_step_eq h.step_eq
  refine ⟨htables, fun hrules hignored => htables ⟨hrules.table_eq, hignored.table_eq⟩⟩

/-- Words in quotes of two kinds, which may stand in one another. -/
def quotes : Scanner String :=
  (Builder.empty.addRuleSet
    { rules := [{ name := "END", pattern := "[']", state := some "single", pop := true },
        { name := "END", pattern := "[\"]", state := some "double", pop := true },
        { name := "START", pattern := "[']", push := ["single"] },
        { name := "START", pattern := "[\"]", push := ["double"] },
        { name := "WORD", pattern := "[a-z]+" }] }).after.scanner

/-- The same with the rules for closing quotes exchanged. -/
def quotesExchanged : Scanner String :=
  { quotes with rules := (quotes.rules.take 2).reverse ++ quotes.rules.drop 2 }

/-- A word in quotes of one kind within those of the other, and a quote that is left open. -/
theorem interchangeable_of_tables_quotes :
    let o := (quotes.lex "'\"a\"'\"").answer.serveAll [.next, .item, .next, .next, .item, .next]
    let o' := (quotesExchanged.lex "'\"a\"'\"").answer.serveAll
      [.next, .item, .next, .next, .item, .next]
    (Rule.Reordered quotes.rules quotesExchanged.rules ∧
      Rule.Reordered quotes.ignored quotesExchanged.ignored) ∧
    quotes.SameTables quotesExchanged ∧
      o.answer.filterMap Reply.token? = o'.answer.filterMap Reply.token? ∧
      o.after.scan = o'.after.scan ∧ o.events = o'.events ∧
      o.answer.filterMap (fun reply => reply.token?.map fun t => (t.name, t.text)) =
        [("START", "'"), ("START", "\""), ("WORD", "a"), ("END", "\""), ("END", "'"),
          ("START", "\"")] ∧
      o.after.scan.states = ["double"] := by
  intro o o'
  have hstates : quotes.rules.map (·.state) =
      some "single" :: some "double" :: [none, none, none] := by decide +kernel
  obtain ⟨first, more, hrules, hfirst, hmore⟩ := List.map_eq_cons_iff.1 hstates
  obtain ⟨second, rest, rfl, hsecond, -⟩ := List.map_eq_cons_iff.1 hmore
  have hexchanged : quotesExchanged.rules = second :: first :: rest := by
    rw [quotesExchanged, hrules]
    rfl
  have hreordered : Rule.Reordered quotes.rules quotesExchanged.rules := by
    rw [hrules, hexchanged]
    exact .swap rest hfirst hsecond (by decide)
  have hkept (scanner : Scanner String) (rules : List (Rule String)) :
      { scanner with rules := rules }.ignored = scanner.ignored := rfl
  have hignored : Rule.Reordered quotes.ignored quotesExchanged.ignored := by
    rw [quotesExchanged, hkept]
    exact .refl quotes.ignored
  have htables : quotes.SameTables quotesExchanged := ⟨hreordered.table_eq, hignored.table_eq⟩
  have hsame : o' = o.under quotesExchanged :=
    (interchangeable_of_tables quotes quotesExchanged).1 htables _ _
  have hsame' : o' = o.under quotesExchanged :=
    (interchangeable_of_tables quotes quotesExchanged).2 hreordered hignored _ _
  refine ⟨⟨hreordered, hignored⟩, htables, ?_, ?_, ?_, by decide +kernel, by decide +kernel⟩
  · rw [hsame, Outcome.under_answer]
  · rw [hsame', Outcome.under_after, Session.under_scan]
  · rw [hsame, Outcome.under_events]

end Scanner

end ScanRules
