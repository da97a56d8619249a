import ScanRules.Proofs.Place

/-!
# Trails

The moves of a scanner in a row, and what they leave of the text behind them.

- `Firing`, `Scanner.Trail`: one move, and moves in a row.
- `Tiles`: spans that follow one another without a gap.
- `Scanner.Trail.tiles`: the spans of a trail do so.
- `Scanner.Trail.exists_joined?`: their texts make up the text that has been passed.
- `Scanner.Trail.pairwise_tokens`: the tokens of a trail come one behind the other.
- `Tiling`, `Scanner.Trail.tiling`: what a trail from the start of a text says of the text, of the
  tokens and of what lies between them.
- `Scanner.Call.exists_trail`: a call makes a trail that ends with its token.
-/

namespace ScanRules

/-- A rule that fires at a place and takes the text of a span. -/
structure Firing (S : Type) where
  role : Role
  rule : Rule S
  place : Place S
  span : Span

/-- The spans start at an offset and end at another, none of them is empty, and each starts where
the one in front of it ends. -/
def Tiles : Nat → List Span → Nat → Prop
  | start, [], stop => start = stop
  | start, span :: spans, stop =>
    span.start = start ∧ span.start < span.stop ∧ Tiles span.stop spans stop

variable {S : Type}

/-- The token that a firing makes, unless the rule is an ignored one. -/
def Firing.token? (text : String) (f : Firing S) : Option Token :=
  match f.role with
  | .ignored => none
  | .token => do
    let word ← slice? text.toList f.span
    let position ← Position.inText? text.toList f.place.offset
    return ⟨f.rule.name, String.ofList word, position⟩

/-- The text of a firing: that of its token, or else that of its span. -/
def Firing.text? (text : String) (f : Firing S) : Option (List Char) :=
  match f.token? text with
  | some t => some t.text.toList
  | none => slice? text.toList f.span

/-- What comes of a list element by element, joined. -/
theorem flatten_mapM_cons {α β : Type} (g : α → Option (List β)) (a : α) (as : List α) :
    ((a :: as).mapM g).map List.flatten = do
      let bs ← g a
      let more ← (as.mapM g).map List.flatten
      return bs ++ more := by
  rw [List.mapM_cons]
  cases g a with
  | none => rfl
  | some bs => cases as.mapM g <;> rfl

/-- The texts of firings, joined. -/
def Firing.joined? (text : String) (fired : List (Firing S)) : Option (List Char) :=
  (fired.mapM (text? text)).map List.flatten

theorem Firing.joined?_cons (text : String) (f : Firing S) (fired : List (Firing S)) :
    joined? text (f :: fired) = do
      let word ← f.text? text
      let more ← joined? text fired
      return word ++ more :=
  flatten_mapM_cons _ f fired

/-- Moves in a row lead from one place to another. -/
inductive Scanner.Trail (scanner : Scanner S) (text : String) :
    Place S → List (Firing S) → Place S → Prop
  | nil {p : Place S} : Trail scanner text p [] p
  | cons {p q q' : Place S} {role : Role} {r : Rule S} {span : Span} {fired : List (Firing S)} :
    scanner.Moves text p role r span q → Trail scanner text q fired q' →
    Trail scanner text p (⟨role, r, p, span⟩ :: fired) q'

/-- What the rules that fire make of a text, up to a place in it. -/
structure Tiling (scanner : Scanner S) (text : String) (fired : List (Firing S))
    (tokens : List Token) (q : Place S) : Prop where
  /-- The rules fire one after the other, from the start of the text on. -/
  trail : scanner.Trail text ⟨0, []⟩ fired q
  /-- What they take is never empty, and nothing is left out or taken twice. -/
  tiles : Tiles 0 (fired.map (·.span)) q.offset
  /-- The tokens are those of the token rules among them, in the same order. -/
  tokens_eq : tokens = fired.filterMap (·.token? text)
  /-- The text of a token is the slice of its span. -/
  text_of_token : ∀ t ∈ tokens, slice? text.toList t.span = some t.text.toList
  /-- Each token is behind the ones in front of it. -/
  apart : tokens.Pairwise fun t u => t.span.start < t.span.stop ∧ t.span.stop ≤ u.span.start
  /-- Whatever makes no token is an ignored rule, which takes the text where it fires. -/
  gaps : ∀ f ∈ fired, f.token? text = none →
    f.rule ∈ scanner.ignored ∧ f.span.start = f.place.offset ∧ f.rule.Takes text f.place f.span
  /-- The texts of tokens and ignored rules together are the text in front of the place. -/
  rebuilt : ∃ front, Firing.joined? text fired = some front ∧
    textBefore? text.toList q.offset = some front

/-! ## Spans in a row -/

theorem Tiles.le_start {start stop : Nat} {spans : List Span} (h : Tiles start spans stop) :
    ∀ span ∈ spans, start ≤ span.start := by
  induction spans generalizing start with
  | nil => exact fun _ h => nomatch h
  | cons span spans ih =>
    obtain ⟨rfl, hlt, hrest⟩ := h
    intro other hother
    rcases List.mem_cons.1 hother with rfl | hother
    · exact Nat.le_refl _
    · exact Nat.le_trans (Nat.le_of_lt hlt) (ih hrest other hother)

/-- Spans in a row are not empty, and none starts before the ones in front of it end. -/
theorem Tiles.pairwise {start stop : Nat} {spans : List Span} (h : Tiles start spans stop) :
    spans.Pairwise fun s t => s.start < s.stop ∧ s.stop ≤ t.start := by
  induction spans generalizing start with
  | nil => exact .nil
  | cons span spans ih =>
    obtain ⟨-, hlt, hrest⟩ := h
    exact .cons (fun other hother => ⟨hlt, hrest.le_start other hother⟩) (ih hrest)

namespace Scanner

variable {scanner : Scanner S} {text : String} {p q : Place S} {role : Role} {r : Rule S}
  {span : Span} {fired : List (Firing S)}

/-! ## One move -/

/-- What fires takes its text. -/
theorem Fires.takes (h : scanner.Fires text p role r span) : r.Takes text p span := by
  rcases h with ⟨_, _, _, htakes, _⟩ | ⟨_, _, _, _, htakes, _⟩
  · exact htakes
  · exact htakes

theorem Fires.mem_ignored (h : scanner.Fires text p .ignored r span) : r ∈ scanner.ignored := by
  cases h with
  | ignored hfirst =>
    obtain ⟨earlier, later, hrules, -⟩ := hfirst
    rw [hrules]
    exact List.mem_append_right _ List.mem_cons_self

/-- A move passes over a word of the text. -/
theorem Moves.exists_append (h : scanner.Moves text p role r span q) :
    ∃ a word b, text.toList = a ++ word ++ b ∧ byteSize a = p.offset ∧
      span = ⟨byteSize a, byteSize a + byteSize word⟩ :=
  Pattern.exists_append_of_matchAt h.fires.takes.2.1

theorem Moves.start_eq (h : scanner.Moves text p role r span q) : span.start = p.offset := by
  obtain ⟨a, word, b, -, ha, rfl⟩ := h.exists_append
  exact ha

theorem Moves.stop_eq (h : scanner.Moves text p role r span q) : span.stop = q.offset := by
  rw [h.after]

theorem Moves.start_lt_stop (h : scanner.Moves text p role r span q) : span.start < span.stop :=
  h.fires.takes.2.2

/-- A move of a token rule makes a token, which has the span of the move and its text. -/
theorem Moves.exists_token (h : scanner.Moves text p .token r span q) :
    ∃ t, Firing.token? text ⟨.token, r, p, span⟩ = some t ∧ t.span = span ∧
      slice? text.toList t.span = some t.text.toList := by
  obtain ⟨a, word, b, htext, ha, rfl⟩ := h.exists_append
  have hslice : slice? text.toList ⟨byteSize a, byteSize a + byteSize word⟩ = some word := by
    rw [htext, slice?_append]
  have hposition : Position.inText? text.toList p.offset = some (Position.behind a) := by
    rw [htext, ← ha, List.append_assoc, Position.inText?_append]
  refine ⟨⟨r.name, String.ofList word, Position.behind a⟩, ?_, ?_, ?_⟩
  · simp [Firing.token?, hslice, hposition]
  · simp [Token.span]
  · simp [Token.span, hslice]

/-- The text of a move is that of its span, whatever its role. -/
theorem Moves.text?_eq (h : scanner.Moves text p role r span q) :
    Firing.text? text ⟨role, r, p, span⟩ = slice? text.toList span := by
  cases role with
  | ignored => rfl
  | token =>
    obtain ⟨t, ht, rfl, hslice⟩ := h.exists_token
    rw [Firing.text?, ht, hslice]

/-- A move makes the text behind it longer by its own. -/
theorem Moves.exists_text? (h : scanner.Moves text p role r span q) {front : List Char}
    (hfront : textBefore? text.toList p.offset = some front) :
    ∃ word, Firing.text? text ⟨role, r, p, span⟩ = some word ∧
      textBefore? text.toList q.offset = some (front ++ word) := by
  rw [h.text?_eq]
  obtain ⟨a, word, b, htext, ha, rfl⟩ := h.exists_append
  obtain rfl : a = front := by
    rw [htext, ← ha, List.append_assoc, textBefore?_append] at hfront
    exact Option.some.inj hfront
  refine ⟨word, by rw [htext, slice?_append], ?_⟩
  rw [← h.stop_eq, htext, ← byteSize_append, textBefore?_append]

/-! ## Moves in a row -/

theorem Trail.append {fired' : List (Firing S)} {q' : Place S}
    (h : scanner.Trail text p fired q) (h' : scanner.Trail text q fired' q') :
    scanner.Trail text p (fired ++ fired') q' := by
  induction h with
  | nil => exact h'
  | cons hmoves _ ih => exact .cons hmoves (ih h')

/-- Every firing of a trail is a move from its place. -/
theorem Trail.exists_moves (h : scanner.Trail text p fired q) :
    ∀ f ∈ fired, ∃ q', scanner.Moves text f.place f.role f.rule f.span q' := by
  induction h with
  | nil => exact fun _ h => nomatch h
  | cons hmoves _ ih =>
    intro f hf
    rcases List.mem_cons.1 hf with rfl | hf
    · exact ⟨_, hmoves⟩
    · exact ih f hf

/-- The spans of a trail follow one another without a gap. -/
theorem Trail.tiles (h : scanner.Trail text p fired q) :
    Tiles p.offset (fired.map (·.span)) q.offset := by
  induction h with
  | nil => exact rfl
  | cons hmoves _ ih =>
    -- what follows starts where this move stops
    rw [← hmoves.stop_eq] at ih
    exact ⟨hmoves.start_eq, hmoves.start_lt_stop, ih⟩

/-- A token of a trail has the span of its firing and the text of this span. -/
theorem Trail.span_of_token? (h : scanner.Trail text p fired q) {f : Firing S} (hf : f ∈ fired)
    {t : Token} (ht : f.token? text = some t) :
    t.span = f.span ∧ slice? text.toList t.span = some t.text.toList := by
  obtain ⟨q', hmoves⟩ := h.exists_moves f hf
  obtain ⟨role, r, p', span⟩ := f
  cases role with
  | ignored => cases ht
  | token =>
    obtain ⟨t', ht', hspan, hslice⟩ := hmoves.exists_token
    obtain rfl := Option.some.inj (ht.symm.trans ht')
    exact ⟨hspan, hslice⟩

/-- The spans of the tokens are some of the spans of the trail, in the same order. -/
theorem Trail.span_tokens_sublist (h : scanner.Trail text p fired q) :
    ((fired.filterMap (·.token? text)).map Token.span).Sublist (fired.map (·.span)) := by
  induction h with
  | nil => exact .slnil
  | @cons p q q' role r span fired hmoves htrail ih =>
    cases ht : Firing.token? text ⟨role, r, p, span⟩ with
    | none =>
      rw [List.filterMap_cons_none ht]
      exact ih.cons _
    | some t =>
      have hspan := ((Trail.cons hmoves htrail).span_of_token? List.mem_cons_self ht).1
      rw [List.filterMap_cons_some ht, List.map_cons, List.map_cons, hspan]
      exact ih.cons_cons _

/-- The tokens of a trail are not empty, and each starts behind the ones in front of it. -/
theorem Trail.pairwise_tokens (h : scanner.Trail text p fired q) :
    (fired.filterMap (·.token? text)).Pairwise fun t u =>
      t.span.start < t.span.stop ∧ t.span.stop ≤ u.span.start :=
  List.pairwise_map.1 (h.tiles.pairwise.sublist h.span_tokens_sublist)

/-- The texts of a trail, joined, are what it adds to the text behind it. -/
theorem Trail.exists_joined? (h : scanner.Trail text p fired q) :
    ∀ {front : List Char}, textBefore? text.toList p.offset = some front →
      ∃ more, Firing.joined? text fired = some more ∧
        textBefore? text.toList q.offset = some (front ++ more) := by
  induction h with
  | nil =>
    intro front hfront
    exact ⟨[], rfl, by rwa [List.append_nil]⟩
  | cons hmoves _ ih =>
    intro front hfront
    obtain ⟨word, hword, hnext⟩ := hmoves.exists_text? hfront
    obtain ⟨more, hmore, hback⟩ := ih hnext
    refine ⟨word ++ more, ?_, ?_⟩
    · rw [Firing.joined?_cons, hword, hmore]
      rfl
    · rw [hback, List.append_assoc]

/-- A trail from the start of a text is a tiling. -/
theorem Trail.tiling (h : scanner.Trail text ⟨0, []⟩ fired q) :
    Tiling scanner text fired (fired.filterMap (·.token? text)) q where
  trail := h
  tiles := h.tiles
  tokens_eq := rfl
  text_of_token := by
    intro t ht
    obtain ⟨f, hf, hft⟩ := List.mem_filterMap.1 ht
    exact (h.span_of_token? hf hft).2
  apart := h.pairwise_tokens
  gaps := by
    intro f hf hnone
    obtain ⟨q', hmoves⟩ := h.exists_moves f hf
    obtain ⟨role, r, p, span⟩ := f
    cases role with
    | token =>
      obtain ⟨t, ht, -⟩ := hmoves.exists_token
      cases hnone.symm.trans ht
    | ignored => exact ⟨hmoves.fires.mem_ignored, hmoves.start_eq, hmoves.fires.takes⟩
  rebuilt := by
    exact h.exists_joined? (textBefore?_append [] text.toList)

/-! ## Calls -/

/-- A call is a trail of ignored rules, with its token at the end if it finds one. -/
theorem Call.exists_trail {answer : Except Error (Option Token)}
    (h : scanner.Call text p answer q) :
    ∃ fired, scanner.Trail text p fired q ∧
      fired.filterMap (·.token? text) = answer.toOption.join.toList := by
  induction h with
  | ended => exact ⟨[], .nil, rfl⟩
  | failed => exact ⟨[], .nil, rfl⟩
  | @found p q r span word position hmoves hslice hposition =>
    refine ⟨[⟨.token, r, p, span⟩], .cons hmoves .nil, ?_⟩
    simp [Firing.token?, hslice, hposition, Except.toOption]
  | @skipped p q q' r span answer hmoves _ ih =>
    obtain ⟨fired, htrail, htokens⟩ := ih
    exact ⟨⟨.ignored, r, p, span⟩ :: fired, .cons hmoves htrail, htokens⟩

end Scanner

end ScanRules
