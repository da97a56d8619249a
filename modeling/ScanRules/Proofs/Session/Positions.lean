import ScanRules.Proofs.Session.Requests

/-!
# Positions that sessions report

A session keeps a line and a column and never looks back. All the same, every position that it
reports is the one that counting from the start of the text gives for its offset.

- `Session.Sound.inText?_of_token`, `Session.Sound.inText?_of_error`: the positions of one reply.
- `Scanner.inText?_serveAll_lex`: the position of a session, and those of all its replies, whatever
  it has been asked for.
-/

namespace ScanRules

variable {S : Type} [DecidableEq S]

namespace Session.Sound

variable {input : String} {s : Session S} {request : Request}

/-- A token of a reply has its position in the text. -/
theorem inText?_of_token (h : s.Sound input) {t : Token}
    (ht : (s.serve request).answer.token? = some t) :
    Position.inText? input.toList t.position.offset = some t.position := by
  obtain hidle | ⟨htoken, -, -⟩ := serve_idle_or_next request s
  · rw [hidle] at ht
    cases ht
  · rw [htoken, Reply.token?_next_eq_some_iff] at ht
    cases hf : s.failure with
    | some e =>
      rw [next_of_failure hf] at ht
      cases ht
    | none =>
      rw [next_of_search hf] at ht
      exact (Scan.search_token ..).inText?_of_token h.within t ht

/-- An error of a reply is one of the position where the session stands then, and this position is
that of its offset in the text. -/
theorem inText?_of_error (h : s.Sound input) {e : Error}
    (he : (s.serve request).answer.error? = some e) :
    ∃ p, e.position? = some p ∧ p = (s.serve request).after.scan.position ∧
      Position.inText? input.toList p.offset = some p := by
  obtain hidle | ⟨-, herror, hscan⟩ := serve_idle_or_next request s
  · rw [hidle] at he
    cases he
  · rw [herror, Reply.error?_next_eq_some_iff] at he
    refine ⟨_, (h.position?_of_next he).2, congrArg Scan.position hscan.symm, ?_⟩
    exact h.next.within.inText?

/-- Every reply to requests is the reply to one of them, made to a sound session. -/
theorem exists_serve_of_mem (h : s.Sound input) {requests : List Request} {reply : Reply}
    (hreply : reply ∈ (s.serveAll requests).answer) :
    ∃ s' : Session S, s'.Sound input ∧ ∃ request, reply = (s'.serve request).answer := by
  induction requests generalizing s with
  | nil => cases hreply
  | cons request requests ih =>
    rcases List.mem_cons.1 hreply with rfl | hrest
    · exact ⟨s, h, request, rfl⟩
    · exact ih (h.serve request) hrest

end Session.Sound

/-- **True positions**: after any requests, the position of a session is the one that its offset has
in the whole text, and so are the positions of all the tokens and errors that it has replied. It
does not matter, then, which rules have cut the text in front of an offset. -/
theorem Scanner.inText?_serveAll_lex (scanner : Scanner S) (input : String)
    (requests : List Request) :
    let o := (scanner.lex input).answer.serveAll requests
    Position.inText? input.toList o.after.scan.position.offset = some o.after.scan.position ∧
      (∀ reply ∈ o.answer, ∀ t, reply.token? = some t →
        Position.inText? input.toList t.position.offset = some t.position) ∧
      (∀ reply ∈ o.answer, ∀ e, reply.error? = some e →
        ∃ p, e.position? = some p ∧ Position.inText? input.toList p.offset = some p) ∧
      ∀ (S' : Type) [DecidableEq S'] (other : Scanner S') (requests' : List Request),
        let o' := (other.lex input).answer.serveAll requests'
        o'.after.scan.position.offset = o.after.scan.position.offset →
          o'.after.scan.position = o.after.scan.position := by
  intro o
  have hsound := Session.sound_lex scanner input
  have hafter := (hsound.serveAll requests).within.inText?
  refine ⟨hafter, ?_, ?_, ?_⟩
  · intro reply hreply t ht
    obtain ⟨s, hs, request, rfl⟩ := hsound.exists_serve_of_mem hreply
    exact hs.inText?_of_token ht
  · intro reply hreply e he
    obtain ⟨s, hs, request, rfl⟩ := hsound.exists_serve_of_mem hreply
    obtain ⟨p, hp, -, hin⟩ := hs.inText?_of_error he
    exact ⟨p, hp, hin⟩
  · -- both positions are those that the text gives to the one offset
    intro S' _ other requests' o' hoffset
    have hother : Position.inText? input.toList o'.after.scan.position.offset =
        some o'.after.scan.position :=
      ((Session.sound_lex other input).serveAll requests').within.inText?
    rw [hoffset] at hother
    exact Option.some.inj (hother.symm.trans hafter)

/-- Words between blanks and line feeds. -/
def Scanner.words : Scanner String :=
  (Builder.empty.addRuleSet
    { rules := [{ name := "WORD", pattern := "[a-zé]+" }]
      ignored := [{ pattern := "[ \n]+" }] }).after.scanner

/-- The same texts cut into single characters. -/
def Scanner.letters : Scanner String :=
  (Builder.empty.addRuleSet
    { rules := [{ name := "LETTER", pattern := "[a-zé]" }]
      ignored := [{ pattern := "[ \n]" }] }).after.scanner

/-- The second word of a text of three lines, and the error behind it, which the other scanner comes
to as well. -/
theorem Scanner.inText?_serveAll_words :
    let text := "éa\n\n b?"
    let o := (words.lex text).answer.serveAll [.next, .item, .next]
    let o' := (letters.lex text).answer.serveAll [.next, .next, .next]
    let found : Reply := .item (some (.ok ⟨"WORD", "b", ⟨6, 3, 2⟩⟩))
    let failed : Reply := .next (.error (.noMatch ⟨7, 3, 3⟩))
    (found ∈ o.answer ∧ Position.inText? text.toList 6 = some ⟨6, 3, 2⟩) ∧
      (failed ∈ o.answer ∧ Position.inText? text.toList 7 = some ⟨7, 3, 3⟩) ∧
      o'.after.scan.position.offset = o.after.scan.position.offset ∧
      o'.after.scan.position = o.after.scan.position := by
  intro text o o' found failed
  obtain ⟨-, htokens, herrors, hcut⟩ := inText?_serveAll_lex words text [.next, .item, .next]
  have hfound : found ∈ o.answer := by decide +kernel
  have hfailed : failed ∈ o.answer := by decide +kernel
  have hoffset : o'.after.scan.position.offset = o.after.scan.position.offset := by decide +kernel
  refine ⟨⟨hfound, htokens found hfound _ rfl⟩, ⟨hfailed, ?_⟩, hoffset, ?_⟩
  · obtain ⟨p, hp, hin⟩ := herrors failed hfailed _ rfl
    obtain rfl := Option.some.inj hp
    exact hin
  · exact hcut String letters [.next, .next, .next] hoffset

end ScanRules
