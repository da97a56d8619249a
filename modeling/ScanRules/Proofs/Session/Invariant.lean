import ScanRules.Proofs.Session.Requests

/-!
# Invariants of a scan

What holds at the start of every text and is kept by each rule that fires holds wherever a session
can be.

- `Scanner.Invariant`: a property of places that every scan keeps.
- `Scanner.Invariant.search`, `Scanner.Invariant.next`, `Scanner.Invariant.serve`: it is kept by
  searches for a token, and so by calls and requests.
-/

namespace ScanRules

variable {S : Type} [DecidableEq S] {scanner : Scanner S} {inv : Scan S → Prop}

/-- A property that holds at the start of every text, and behind each rule that fires where it
holds. -/
structure Scanner.Invariant (scanner : Scanner S) (inv : Scan S → Prop) : Prop where
  start (text : List Char) : inv (.start text [])
  fired {c d : Scan S} {role : Role} {r : Rule S} {n : Nat} :
    inv c → c.step scanner = .fired role r n d → inv d

namespace Scanner.Invariant

theorem trivial (scanner : Scanner S) : scanner.Invariant fun _ => True where
  start _ := True.intro
  fired _ _ := True.intro

/-- A search for a token keeps the invariant. -/
theorem search (hinv : scanner.Invariant inv) {c : Scan S}
    {o : Outcome S (Scan S) (Except Error (Option Token))} (h : Scan.Search scanner c o)
    (hc : inv c) : inv o.after := by
  induction h with
  | ended | failed => exact hc
  | found hstep => exact hinv.fired hc hstep
  | skipped hstep _ ih => exact ih (hinv.fired hc hstep)

variable {s : Session S}

/-- So does a call. -/
theorem next (hinv : s.scanner.Invariant inv) (hs : inv s.scan) : inv s.next.after.scan := by
  cases hf : s.failure with
  | some e => rwa [Session.next_of_failure hf]
  | none =>
    rw [Session.next_of_search hf]
    exact hinv.search (Scan.search_token s.scanner s.scan) hs

/-- So does any request, which comes to no more than a call. -/
theorem serve (hinv : s.scanner.Invariant inv) (hs : inv s.scan) (request : Request) :
    inv (s.serve request).after.scan := by
  obtain hidle | ⟨-, -, hscan⟩ := Session.serve_idle_or_next request s
  · rwa [hidle]
  · rw [hscan]
    exact hinv.next hs

end Scanner.Invariant

end ScanRules
