import ScanRules.Proofs.Session.Requests
import ScanRules.Proofs.Trail

/-!
# Nothing is lost and nothing is said twice

The rules that fire while a session is called take the text apart: what they take, put together in
order, is the text up to the place of the session.

- `Session.Sound.exists_trail_nexts`: calls make a trail, whose tokens are the ones answered.
- `Session.Sound.ahead_of_none_mem`, `Session.Sound.failure_of_error_mem`: where a session stands
  once it has answered that there is nothing left, or with an error.
- `Scanner.tiling_nexts_lex`: any number of calls from the start of a text makes a tiling of it.
-/

namespace ScanRules

variable {S : Type} [DecidableEq S]

namespace Session.Sound

variable {input : String} {s : Session S}

theorem nexts (h : s.Sound input) (n : Nat) : (s.nexts n).after.Sound input := by
  induction n generalizing s with
  | zero => exact h
  | succ n ih => exact ih h.next

/-- A call that goes on leads along a trail. -/
theorem exists_trail_next (h : s.Sound input) :
    ∃ fired, s.scanner.Trail input s.place fired s.next.after.place ∧
      fired.filterMap (·.token? input) = s.next.answer.toOption.join.toList := by
  cases hf : s.failure with
  | some e =>
    rw [next_of_failure hf]
    exact ⟨[], .nil, rfl⟩
  | none =>
    have hcall : s.scanner.Call input s.place (s.scan.token s.scanner).answer
      (s.scan.token s.scanner).after.place := h.within.call_of_search (Scan.search_token ..)
    rw [next_of_search hf]
    exact hcall.exists_trail

/-- Calls lead along a trail, whose tokens are the ones answered. -/
theorem exists_trail_nexts (h : s.Sound input) (n : Nat) :
    ∃ fired, s.scanner.Trail input s.place fired (s.nexts n).after.place ∧
      fired.filterMap (·.token? input) =
        (s.nexts n).answer.filterMap fun reply => reply.1.toOption.join := by
  induction n generalizing s with
  | zero => exact ⟨[], .nil, rfl⟩
  | succ n ih =>
    obtain ⟨first, hfirst, htoken⟩ := h.exists_trail_next
    obtain ⟨rest, hrest, htokens⟩ := ih h.next
    rw [next_scanner] at hrest
    refine ⟨first ++ rest, hfirst.append hrest, ?_⟩
    rw [nexts_succ, List.filterMap_append, htoken, htokens, List.filterMap_cons]
    cases s.next.answer.toOption.join with
    | none => rfl
    | some t => rfl

/-- Once a session has answered that nothing is left, it stands at the end of its text. -/
theorem ahead_of_none_mem {q : Place S} {n : Nat} (hmem : (.ok none, q) ∈ (s.nexts n).answer) :
    (s.nexts n).after.scan.ahead = [] := by
  induction n generalizing s with
  | zero => cases hmem
  | succ n ih =>
    rcases List.mem_cons.1 hmem with hfirst | hrest
    · obtain ⟨hf, hnil⟩ := next_none (Prod.mk.inj hfirst).1.symm
      show (s.next.after.nexts n).after.scan.ahead = []
      rwa [after_nexts_of_ahead_nil hf hnil]
    · exact ih hrest

/-- Once a session has answered with an error, this is its failure. -/
theorem failure_of_error_mem (h : s.Sound input) {e : Error} {q : Place S} {n : Nat}
    (hmem : (.error e, q) ∈ (s.nexts n).answer) : (s.nexts n).after.failure = some e := by
  induction n generalizing s with
  | zero => cases hmem
  | succ n ih =>
    rcases List.mem_cons.1 hmem with hfirst | hrest
    · have hf := (h.position?_of_next (Prod.mk.inj hfirst).1.symm).1
      show (s.next.after.nexts n).after.failure = some e
      rwa [nexts_of_failure hf]
    · exact ih h.next hrest

end Session.Sound

/-- **Nothing is lost and nothing is said twice**: the rules that fire during any number of calls
from the start of a text make a tiling of it. Where the calls end with nothing left, the texts that
these rules take are the whole text, and where they end with an error, the text in front of it. -/
theorem Scanner.tiling_nexts_lex (scanner : Scanner S) (input : String) (n : Nat) :
    let o := (scanner.lex input).answer.nexts n
    ∃ fired, Tiling scanner input fired
        (o.answer.filterMap fun reply => reply.1.toOption.join) o.after.place ∧
      (∀ q, (.ok none, q) ∈ o.answer → Firing.joined? input fired = some input.toList) ∧
      ∀ e q, (.error e, q) ∈ o.answer → ∃ p, e.position? = some p ∧
        Firing.joined? input fired = textBefore? input.toList p.offset := by
  intro o
  have hsound := Session.sound_lex scanner input
  obtain ⟨fired, htrail, htokens⟩ := hsound.exists_trail_nexts n
  have htiling := htrail.tiling
  obtain ⟨front, hjoined, hfront⟩ := htiling.rebuilt
  refine ⟨fired, htokens ▸ htiling, ?_, ?_⟩
  · intro q hq
    have hall : textBefore? input.toList o.after.place.offset = some input.toList :=
      (hsound.nexts n).within.textBefore?_of_ahead_nil (Session.Sound.ahead_of_none_mem hq)
    exact hjoined.trans (hfront.symm.trans hall)
  · intro e q hq
    have hf := hsound.failure_of_error_mem hq
    refine ⟨_, (hsound.nexts n).position?_failure e hf, ?_⟩
    exact hjoined.trans hfront.symm

/-- Numbers and plus signs, with blanks between them and remarks that blanks may follow. -/
def Scanner.sums : Scanner String :=
  (Builder.empty.addRuleSet
    { rules := [{ name := "NUMBER", pattern := "[0-9]+" }, { name := "PLUS", pattern := "[+]" }]
      ignored := [{ pattern := " +" }, { pattern := "#[a-z]*" }] }).after.scanner

/-- A text that is taken apart to its end, and one that is taken apart up to an error. -/
theorem Scanner.tiling_nexts_sums :
    let o := (sums.lex "1 #a+20 ").answer.nexts 4
    let o' := (sums.lex " 1#a ?+").answer.nexts 3
    ((.ok none, ⟨8, []⟩) ∈ o.answer ∧ ∃ fired,
        Tiling sums "1 #a+20 " fired
          [⟨"NUMBER", "1", ⟨0, 1, 1⟩⟩, ⟨"PLUS", "+", ⟨4, 1, 5⟩⟩, ⟨"NUMBER", "20", ⟨5, 1, 6⟩⟩]
          ⟨8, []⟩ ∧
        Firing.joined? "1 #a+20 " fired = some "1 #a+20 ".toList) ∧
      (.error (.noMatch ⟨5, 1, 6⟩), ⟨5, []⟩) ∈ o'.answer ∧ ∃ fired,
        Tiling sums " 1#a ?+" fired [⟨"NUMBER", "1", ⟨1, 1, 2⟩⟩] ⟨5, []⟩ ∧
        Firing.joined? " 1#a ?+" fired = some " 1#a ".toList := by
  intro o o'
  have hend : (.ok none, ⟨8, []⟩) ∈ o.answer := by decide +kernel
  have herror : (.error (.noMatch ⟨5, 1, 6⟩), ⟨5, []⟩) ∈ o'.answer := by decide +kernel
  obtain ⟨fired, htiling, hjoined, -⟩ := tiling_nexts_lex sums "1 #a+20 " 4
  obtain ⟨fired', htiling', -, hjoined'⟩ := tiling_nexts_lex sums " 1#a ?+" 3
  refine ⟨⟨hend, fired, ?_, hjoined _ hend⟩, herror, fired', ?_, ?_⟩
  · have htokens : (o.answer.filterMap fun reply => reply.1.toOption.join) =
        [⟨"NUMBER", "1", ⟨0, 1, 1⟩⟩, ⟨"PLUS", "+", ⟨4, 1, 5⟩⟩, ⟨"NUMBER", "20", ⟨5, 1, 6⟩⟩] := by
      decide +kernel
    have hplace : o.after.place = ⟨8, []⟩ := by decide +kernel
    rwa [htokens, hplace] at htiling
  · have htokens : (o'.answer.filterMap fun reply => reply.1.toOption.join) =
        [⟨"NUMBER", "1", ⟨1, 1, 2⟩⟩] := by decide +kernel
    have hplace : o'.after.place = ⟨5, []⟩ := by decide +kernel
    rwa [htokens, hplace] at htiling'
  · obtain ⟨p, hp, htext⟩ := hjoined' _ _ herror
    obtain rfl := Option.some.inj hp
    exact htext

end ScanRules
