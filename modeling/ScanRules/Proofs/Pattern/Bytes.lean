import ScanRules.Pattern
import ScanRules.Proofs.Rule
import ScanRules.Proofs.Text.Utf8

/-!
# Matching on bytes

A text is stored as bytes, and offsets count them. So a machine can be started at any offset, also
inside of a character, and nothing keeps it from accepting there before it takes anything.

- `Look.holdsAt`: assertions, as they are decided on bytes.
- `Machine.runBytes`, `Machine.matchBytes?`: a machine that runs over bytes.
- `Pattern.search`: the match of a pattern at an offset of bytes. A match of the empty text is dropped
  where it would split a character.
- `Machine.matchBytes?_append`: between two characters, this is the match in characters.
- `Pattern.search_eq_matchAt`: so on the bytes of a text it is the match of the text, wherever it is
  asked for.
- `Pattern.isValid_of_matchAt`: matches start where they are asked for and split no character.
-/

namespace ScanRules

namespace Pattern

/-! ## Assertions on bytes -/

/-- Whether an offset meets a condition. Words in Unicode are made of characters, so they have to be
read off the bytes; for all other conditions single bytes are enough. -/
def Look.holdsAt (bytes : ByteArray) (offset : Nat) : Look → Bool
  | word edge true =>
    edge.holds ((charBefore? bytes offset).any (isWordChar true))
      ((bytes.utf8DecodeChar? offset).any (isWordChar true))
  | look => look.holds (byteBefore? bytes offset) (byteAt? bytes offset)

/-- Members of words that are not looked for in Unicode are in ASCII. -/
theorem toNat_lt_of_isWordChar {c : Char} (h : isWordChar false c = true) : c.toNat < 128 := by
  have hrange : ∀ {last : Char}, last.toNat < 128 → c.val ≤ last.val → c.toNat < 128 :=
    fun hlast hle => Nat.lt_of_le_of_lt (UInt32.le_iff_toNat_le.1 hle) hlast
  rw [isWordChar, Bool.false_and, Bool.false_and, Bool.or_false, Bool.or_eq_true, beq_iff_eq] at h
  obtain halphanum | rfl := h
  · rcases Bool.or_eq_true_iff.1 halphanum with halpha | hdigit
    · rcases Bool.or_eq_true_iff.1 halpha with hupper | hlower
      · exact @hrange 'Z' (by decide) (of_decide_eq_true hupper).2
      · exact @hrange 'z' (by decide) (of_decide_eq_true (Bool.and_eq_true_iff.1 hlower).2)
    · exact @hrange '9' (by decide) (of_decide_eq_true (Bool.and_eq_true_iff.1 hdigit).2)
  · decide

theorem any_isWordChar_eq {x y : Option Char} (h : AlikeInAscii x y) :
    x.any (isWordChar false) = y.any (isWordChar false) :=
  h.any_eq _ fun _ hle =>
    Bool.eq_false_iff.2 fun hword => Nat.not_lt.2 hle (toNat_lt_of_isWordChar hword)

/-- All conditions but words in Unicode are about characters of ASCII. -/
theorem Look.holds_eq_of_alikeInAscii {look : Look} (hlook : ∀ edge, look ≠ .word edge true)
    {before before' after after' : Option Char} (hbefore : AlikeInAscii before before')
    (hafter : AlikeInAscii after after') :
    look.holds before after = look.holds before' after' := by
  have hfeed : '\n'.toNat < 128 := by decide
  have hreturn : '\r'.toNat < 128 := by decide
  match look with
  | .textStart => exact hbefore.isNone_eq
  | .textEnd => exact hafter.isNone_eq
  | .lineStart false => simp only [holds, hbefore.isNone_eq, hbefore.beq_some_eq hfeed]
  | .lineEnd false => simp only [holds, hafter.isNone_eq, hafter.beq_some_eq hfeed]
  | .lineStart true =>
    simp only [holds, bne, hbefore.isNone_eq, hbefore.beq_some_eq hfeed,
      hbefore.beq_some_eq hreturn, hafter.beq_some_eq hfeed]
  | .lineEnd true =>
    simp only [holds, bne, hafter.isNone_eq, hafter.beq_some_eq hfeed,
      hafter.beq_some_eq hreturn, hbefore.beq_some_eq hreturn]
  | .word edge false =>
    simp only [holds, any_isWordChar_eq hbefore, any_isWordChar_eq hafter]
  | .word edge true => exact absurd rfl (hlook edge)

/-- Between two characters, conditions on bytes are those on characters. -/
theorem Look.holdsAt_append (look : Look) (a b : List Char) :
    look.holdsAt (a ++ b).utf8Encode (byteSize a) = look.holds a.getLast? b.head? := by
  have hbytes : (∀ edge, look ≠ .word edge true) →
      look.holds (byteBefore? (a ++ b).utf8Encode (byteSize a))
        (byteAt? (a ++ b).utf8Encode (byteSize a)) = look.holds a.getLast? b.head? :=
    fun hlook => holds_eq_of_alikeInAscii hlook (alikeInAscii_byteBefore? a b)
      (alikeInAscii_byteAt? a b)
  unfold holdsAt
  split
  · rw [charBefore?_append, utf8DecodeChar?_append]
    rfl
  · next hlook => exact hbytes hlook

/-! ## Machines on bytes -/

namespace Machine

/-- The states that follow a state without anything being taken, where `holds` decides
conditions. -/
def successorsBy (m : Machine) (holds : Look → Bool) (i : Nat) : List Nat :=
  match m.state i with
  | .split choices => choices
  | .check look next => if holds look then [next] else []
  | .take _ _ | .accept => []

/-- Walks from the states of a list, where `holds` decides conditions. -/
def exploreBy (m : Machine) (holds : Look → Bool) : (fuel : Nat) → List Nat → Frontier → Frontier
  | _, [], f => f
  | 0, _ :: _, f => f
  | fuel + 1, i :: todo, f =>
    if f.seen.testBit i then m.exploreBy holds fuel todo f
    else
      let seen := f.seen ||| 1 <<< i
      if m.rests i then m.exploreBy holds fuel todo ⟨seen, i :: f.threads⟩
      else m.exploreBy holds fuel (m.successorsBy holds i ++ todo) ⟨seen, f.threads⟩

/-- Adds what can be reached from a state to a frontier. -/
def enterBy (m : Machine) (fuel : Nat) (holds : Look → Bool) (f : Frontier) (i : Nat) : Frontier :=
  m.exploreBy holds fuel [i] f

/-- The threads after a character. -/
def advanceBy (m : Machine) (fuel : Nat) (c : Char) (holds : Look → Bool) (threads : List Nat) :
    List Nat :=
  ((threads.filterMap (m.advance? c)).foldl (m.enterBy fuel holds) ⟨0, []⟩).threads.reverse

/-- Runs threads over bytes from an offset on, as long as characters begin there. `best` is the end
of the match so far. -/
def runBytes (m : Machine) (fuel : Nat) (bytes : ByteArray) (threads : List Nat) (offset : Nat)
    (best : Option Nat) : Option Nat :=
  let best := if threads.any m.accepts then some offset else best
  match _ : bytes.utf8DecodeChar? offset with
  | none => best
  | some c =>
    match threads.takeWhile (!m.accepts ·) with
    | [] => best
    | preferred =>
      let behind := offset + c.utf8Size
      m.runBytes fuel bytes (m.advanceBy fuel c (Look.holdsAt bytes behind) preferred) behind best
termination_by bytes.size - offset
decreasing_by
  rename_i hc
  have := ByteArray.le_size_of_utf8DecodeChar?_eq_some hc
  have := c.utf8Size_pos
  omega

/-- Where the preferred match ends that starts at an offset. -/
def matchBytes? (m : Machine) (bytes : ByteArray) (offset : Nat) : Option Nat :=
  let fuel := m.effort + 1
  m.runBytes fuel bytes
    (m.enterBy fuel (Look.holdsAt bytes offset) ⟨0, []⟩ m.start).threads.reverse offset none

theorem successorsBy_eq (m : Machine) (before after : Option Char) (i : Nat) :
    m.successorsBy (·.holds before after) i = m.successors before after i := rfl

theorem explore_eq_exploreBy (m : Machine) (before after : Option Char) (fuel : Nat)
    (todo : List Nat) (f : Frontier) :
    m.explore before after fuel todo f = m.exploreBy (·.holds before after) fuel todo f := by
  fun_induction explore m before after fuel todo f with
  | case1 => rw [exploreBy]
  | case2 => rw [exploreBy]
  | case3 f fuel i todo hseen ih => rw [exploreBy, if_pos hseen, ih]
  | case4 f fuel i todo hseen seen hrests ih =>
    rw [exploreBy, if_neg hseen]
    simp only [seen, hrests, if_true] at ih ⊢
    exact ih
  | case5 f fuel i todo hseen seen hrests ih =>
    rw [exploreBy, if_neg hseen, successorsBy_eq]
    simp only [seen, hrests] at ih ⊢
    exact ih

/-- Between two characters, what can be reached is what can be reached in characters. -/
theorem enterBy_append (m : Machine) (fuel : Nat) (a b : List Char) :
    m.enterBy fuel (Look.holdsAt (a ++ b).utf8Encode (byteSize a)) =
      m.enter fuel a.getLast? b.head? := by
  have hholds : Look.holdsAt (a ++ b).utf8Encode (byteSize a) =
      (·.holds a.getLast? b.head?) := funext fun look => look.holdsAt_append a b
  funext f i
  rw [enterBy, enter, hholds, explore_eq_exploreBy]

theorem runBytes_of_none {m : Machine} {fuel : Nat} {bytes : ByteArray} {offset : Nat}
    (h : bytes.utf8DecodeChar? offset = none) (threads : List Nat) (best : Option Nat) :
    m.runBytes fuel bytes threads offset best =
      if threads.any m.accepts then some offset else best := by
  rw [runBytes]
  split
  · rfl
  · next c hc => cases h.symm.trans hc

theorem runBytes_of_some {m : Machine} {fuel : Nat} {bytes : ByteArray} {offset : Nat} {c : Char}
    (h : bytes.utf8DecodeChar? offset = some c) (threads : List Nat) (best : Option Nat) :
    m.runBytes fuel bytes threads offset best =
      match threads.takeWhile (!m.accepts ·) with
      | [] => if threads.any m.accepts then some offset else best
      | preferred =>
        m.runBytes fuel bytes
          (m.advanceBy fuel c (Look.holdsAt bytes (offset + c.utf8Size)) preferred)
          (offset + c.utf8Size) (if threads.any m.accepts then some offset else best) := by
  rw [runBytes]
  split
  · next hc => cases h.symm.trans hc
  · next d hc =>
    obtain rfl := Option.some.inj (h.symm.trans hc)
    rfl

/-- A run over bytes from between two characters of a text is the run over the characters from
there on, by induction on these. A match of `n` characters ends behind as many of them, counted from
where the run has started, behind `k` characters of the text. -/
theorem runBytes_append (m : Machine) (fuel k : Nat) (b : List Char) :
    ∀ {text a : List Char} {threads : List Nat} {count : Nat} {best : Option Nat},
      text = a ++ b → a.length = k + count →
      let ending (n : Nat) := byteSize (text.take (k + n))
      m.runBytes fuel text.utf8Encode threads (byteSize a) (best.map ending) =
        (m.run fuel threads count best b).map ending := by
  induction b with
  | nil =>
    intro text a threads count best htext hlength ending
    have hhere : ending count = byteSize a := by
      simp only [ending, htext, ← hlength, List.take_left]
    have hover : text.utf8Encode.utf8DecodeChar? (byteSize a) = none :=
      htext ▸ utf8DecodeChar?_append a []
    rw [runBytes_of_none hover, run, ← hhere]
    split <;> rfl
  | cons c rest ih =>
    intro text a threads count best htext hlength ending
    have hhere : ending count = byteSize a := by
      simp only [ending, htext, ← hlength, List.take_left]
    have hnext : text.utf8Encode.utf8DecodeChar? (byteSize a) = some c :=
      htext ▸ utf8DecodeChar?_append a (c :: rest)
    have htext' : text = a ++ [c] ++ rest := by rw [htext, List.append_assoc, List.singleton_append]
    have hlength' : (a ++ [c]).length = k + (count + 1) := by simp [hlength, Nat.add_assoc]
    have hbest : (if threads.any m.accepts then some (byteSize a) else best.map ending) =
        (if threads.any m.accepts then some count else best).map ending := by
      split
      · rw [Option.map_some, hhere]
      · rfl
    rw [runBytes_of_some hnext, run, hbest]
    cases threads.takeWhile (!m.accepts ·) with
    | nil => rfl
    | cons t ts =>
      have hthreads : m.advanceBy fuel c (Look.holdsAt text.utf8Encode (byteSize (a ++ [c])))
          (t :: ts) = m.advance fuel c rest.head? (t :: ts) := by
        rw [advanceBy, advance, htext', enterBy_append, List.getLast?_concat]
      simp only [← byteSize_concat, hthreads]
      exact ih htext' hlength'

/-- Between two characters, the match on bytes is the match in characters. -/
theorem matchBytes?_append (m : Machine) (a b : List Char) :
    m.matchBytes? (a ++ b).utf8Encode (byteSize a) =
      (m.match? a.getLast? b).map fun n => byteSize a + byteSize (b.take n) := by
  have hrun := @runBytes_append m (m.effort + 1) a.length b (a ++ b) a
    (m.enter (m.effort + 1) a.getLast? b.head? ⟨0, []⟩ m.start).threads.reverse 0 none rfl rfl
  rw [matchBytes?, match?, enterBy_append]
  refine hrun.trans ?_
  simp only [List.take_length_add_append, byteSize_append]

/-- Where no character begins, a machine can only accept before it takes anything. -/
theorem matchBytes?_of_none {m : Machine} {bytes : ByteArray} {offset stop : Nat}
    (h : bytes.utf8DecodeChar? offset = none) (hstop : m.matchBytes? bytes offset = some stop) :
    stop = offset := by
  rw [matchBytes?, runBytes_of_none h] at hstop
  split at hstop
  · exact (Option.some.inj hstop).symm
  · cases hstop

end Machine

end Pattern

/-! ## Patterns on bytes -/

/-- Is an offset of bytes at their end, or at the first byte of a character? -/
def isBoundary (bytes : ByteArray) (offset : Nat) : Bool :=
  offset = bytes.size || bytes[offset]?.any fun b => decide b.IsUTF8FirstByte

/-- The match of a pattern at an offset of bytes. There is none behind their end, and a match of the
empty text does not count where it would split a character. -/
def Pattern.search (p : Pattern) (bytes : ByteArray) (offset : Nat) : Option Span :=
  if bytes.size < offset then none
  else
    match p.machine.matchBytes? bytes offset with
    | none => none
    | some stop => if stop = offset && !isBoundary bytes offset then none else some ⟨offset, stop⟩

theorem isBoundary_iff {text : String} {offset : Nat} :
    isBoundary text.toByteArray offset ↔ String.Pos.Raw.IsValid text ⟨offset⟩ := by
  have hend : (⟨offset⟩ : String.Pos.Raw) = text.rawEndPos ↔ offset = text.toByteArray.size := by
    rw [String.Pos.Raw.ext_iff]
    rfl
  rw [String.Pos.Raw.isValid_iff_isUTF8FirstByte, hend, isBoundary, Bool.or_eq_true,
    decide_eq_true_iff]
  refine or_congr_right ?_
  by_cases hlt : offset < text.toByteArray.size
  · have hbyte : text.toByteArray[offset]? = some text.toByteArray[offset] := getElem?_pos ..
    rw [hbyte, Option.any_some, decide_eq_true_iff]
    constructor
    · intro hfirst
      exact ⟨hlt, hfirst⟩
    · rintro ⟨_, hfirst⟩
      exact hfirst
  · have hbyte : text.toByteArray[offset]? = none := getElem?_neg _ _ hlt
    rw [hbyte]
    constructor
    · intro hfirst
      cases hfirst
    · rintro ⟨hlt', _⟩
      exact absurd hlt' hlt

/-- On the bytes of a text, the match is the one of the text: between two characters, both see the
same; elsewhere, there is none in the text, and on bytes only an empty one that is dropped. -/
theorem Pattern.search_eq_matchAt (p : Pattern) (text : String) (offset : Nat) :
    p.search text.toByteArray offset = p.matchAt text offset := by
  have hsize : text.toByteArray.size = byteSize text.toList := by
    rw [← String.utf8Encode_toList, size_utf8Encode]
  by_cases hbetween : ∃ a b, text.toList = a ++ b ∧ byteSize a = offset
  · obtain ⟨a, b, htext, rfl⟩ := hbetween
    have hle : ¬ text.toByteArray.size < byteSize a := by
      rw [hsize, htext, byteSize_append]
      omega
    have hboundary : isBoundary text.toByteArray (byteSize a) = true :=
      isBoundary_iff.2 (isValid_byteSize htext)
    have hmatch : p.machine.matchBytes? text.toByteArray (byteSize a) = _ :=
      String.utf8Encode_toList (b := text) ▸ htext ▸ p.machine.matchBytes?_append a b
    rw [search, if_neg hle, hmatch, p.matchAt_of_append htext, matchAhead, hboundary]
    cases p.machine.match? a.getLast? b <;> simp
  · have hnone : p.matchAt text offset = none := by
      rw [Option.eq_none_iff_forall_ne_some]
      intro span hspan
      obtain ⟨a, word, b, htext, rfl, -⟩ := exists_append_of_matchAt hspan
      exact hbetween ⟨a, word ++ b, by rw [htext, List.append_assoc], rfl⟩
    have hinside : text.toByteArray.utf8DecodeChar? offset = none := by
      rw [Option.eq_none_iff_forall_ne_some, ← String.utf8Encode_toList]
      intro c hc
      obtain ⟨a, b, htext, rfl⟩ := exists_append_of_utf8DecodeChar? hc
      exact hbetween ⟨a, c :: b, htext, rfl⟩
    have hsplits : isBoundary text.toByteArray offset = false := by
      rw [Bool.eq_false_iff]
      exact fun h => hbetween (exists_append_of_isValid (isBoundary_iff.1 h))
    rw [hnone, search]
    split
    · rfl
    · split
      · rfl
      · next stop hstop =>
        rw [Machine.matchBytes?_of_none hinside hstop, hsplits]
        simp

/-- **Matches split no character**: a pattern matches at an offset of a text as it matches at this
offset of its bytes. If it does, the match starts exactly there and ends there or behind, within the
text, and both its ends fall between two characters. Behind the end of the text and inside of a
character, there is no match. -/
theorem Pattern.isValid_of_matchAt (p : Pattern) (text : String) (offset : Nat) :
    p.matchAt text offset = p.search text.toByteArray offset ∧
    (∀ span, p.matchAt text offset = some span →
      span.start = offset ∧ offset ≤ span.stop ∧ span.stop ≤ text.utf8ByteSize ∧
        String.Pos.Raw.IsValid text ⟨span.start⟩ ∧ String.Pos.Raw.IsValid text ⟨span.stop⟩) ∧
    (text.utf8ByteSize < offset → p.matchAt text offset = none) ∧
    (¬ String.Pos.Raw.IsValid text ⟨offset⟩ → p.matchAt text offset = none) := by
  have hmatch : ∀ span, p.matchAt text offset = some span →
      span.start = offset ∧ offset ≤ span.stop ∧ span.stop ≤ text.utf8ByteSize ∧
        String.Pos.Raw.IsValid text ⟨span.start⟩ ∧ String.Pos.Raw.IsValid text ⟨span.stop⟩ := by
    intro span hspan
    obtain ⟨a, word, b, htext, rfl, rfl⟩ := exists_append_of_matchAt hspan
    have hstart : text.toList = a ++ (word ++ b) := by rw [htext, List.append_assoc]
    refine ⟨rfl, Nat.le_add_right .., ?_, isValid_byteSize hstart, ?_⟩
    · rw [← byteSize_toList, htext, byteSize_append, byteSize_append]
      exact Nat.le_add_right ..
    · rw [← byteSize_append]
      exact isValid_byteSize htext
  refine ⟨(p.search_eq_matchAt text offset).symm, hmatch, ?_, ?_⟩
  · intro hlt
    rw [Option.eq_none_iff_forall_ne_some]
    intro span hspan
    obtain ⟨-, hle, hle', -⟩ := hmatch span hspan
    omega
  · intro hinside
    rw [Option.eq_none_iff_forall_ne_some]
    intro span hspan
    obtain ⟨hstart, -, -, hvalid, -⟩ := hmatch span hspan
    exact hinside (hstart ▸ hvalid)

/-- Inside of the last character, the machine accepts before it takes anything, and so it does behind
the end. -/
theorem Pattern.isValid_of_matchAt_edges :
    ∃ p, Pattern.compile "(?-u:\\B)|é" .empty = .ok p ∧
      p.machine.matchBytes? "aé".toByteArray 2 = some 2 ∧
      p.machine.matchBytes? "aé".toByteArray 4 = some 4 ∧
      (∃ span, p.matchAt "aé" 1 = some span ∧ span = ⟨1, 3⟩ ∧
        String.Pos.Raw.IsValid "aé" ⟨span.start⟩ ∧ String.Pos.Raw.IsValid "aé" ⟨span.stop⟩) ∧
      p.search "aé".toByteArray 3 = some ⟨3, 3⟩ ∧
      p.matchAt "aé" 2 = none ∧ p.matchAt "aé" 4 = none := by
  have hfacts : ((Pattern.compile "(?-u:\\B)|é" .empty).toOption.map fun p =>
      (p.machine.matchBytes? "aé".toByteArray 2, p.machine.matchBytes? "aé".toByteArray 4,
        p.matchAt "aé" 1, p.matchAt "aé" 3)) =
      some (some 2, some 4, some ⟨1, 3⟩, some ⟨3, 3⟩) := by
    decide +kernel
  obtain ⟨p, hp, hp'⟩ := Option.map_eq_some_iff.1 hfacts
  obtain ⟨hinside, hbehind, hlast, hend⟩ : p.machine.matchBytes? "aé".toByteArray 2 = some 2 ∧
      p.machine.matchBytes? "aé".toByteArray 4 = some 4 ∧ p.matchAt "aé" 1 = some ⟨1, 3⟩ ∧
      p.matchAt "aé" 3 = some ⟨3, 3⟩ := by
    simpa only [Prod.mk.injEq] using hp'
  have hcompile : Pattern.compile "(?-u:\\B)|é" .empty = .ok p := by
    cases hc : Pattern.compile "(?-u:\\B)|é" .empty with
    | error refusal =>
      rw [hc] at hp
      cases hp
    | ok q =>
      rw [hc] at hp
      rw [Option.some.inj hp]
  obtain ⟨-, -, -, hstart, hstop⟩ := (isValid_of_matchAt p "aé" 1).2.1 ⟨1, 3⟩ hlast
  refine ⟨p, hcompile, hinside, hbehind, ⟨⟨1, 3⟩, hlast, rfl, hstart, hstop⟩, ?_, ?_, ?_⟩
  · rw [← (isValid_of_matchAt p "aé" 3).1, hend]
  · refine (isValid_of_matchAt p "aé" 2).2.2.2 ?_
    rw [← isBoundary_iff]
    decide +kernel
  · exact (isValid_of_matchAt p "aé" 4).2.2.1 (by decide +kernel)

end ScanRules
