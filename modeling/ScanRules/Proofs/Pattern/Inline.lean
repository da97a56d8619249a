import ScanRules.Proofs.Pattern.Leading
import ScanRules.Proofs.Pattern.Settled

/-!
# Flags and switches in the text

Flags can be written in front of a pattern, as a group of the letters of their switches. This means
the same.

- `turnOn`, `switchesOf`, `inlined`: the switches of flags, and a text with switches in front of it.
- `readItems_inlined`: the reading of such a text starts with the settings of the switches, and goes
  on where the reading of the text itself would start.
- `Tree.Led.meaning`: settings in front of a tree are the modes in which it is read.
- `Pattern.matchAt_inlined`: flags and switches in front make patterns with the same matches, and
  flags without a name make none with others.
-/

namespace ScanRules.Pattern

/-- The letter of a switch. -/
def Switch.letter : Switch → Char
  | ignoreCase => 'i'
  | multiLine => 'm'
  | dotAll => 's'
  | swapGreed => 'U'
  | unicode => 'u'
  | crlf => 'R'
  | verbose => 'x'

/-- Do flags turn a switch on? -/
def turnOn (flags : Flags) : Switch → Bool
  | .ignoreCase => flags.caseInsensitive
  | .multiLine => flags.multiLine
  | .dotAll => flags.dotMatchesNewLine
  | .swapGreed => flags.swapGreed
  | .verbose => flags.ignoreWhitespace
  | .unicode | .crlf => false

/-- The switches that flags turn on. -/
def switchesOf (flags : Flags) : List Switch :=
  [.ignoreCase, .dotAll, .multiLine, .verbose, .swapGreed].filter (turnOn flags)

/-- A text behind the group that turns switches on, if there are any. -/
def inlined (switches : List Switch) (text : String) : String :=
  if switches.isEmpty then text
  else "(?" ++ String.ofList (switches.map Switch.letter) ++ ")" ++ text

/-! ## Reading switches -/

theorem Switch.ofChar?_letter (s : Switch) : Switch.ofChar? s.letter = some s := by
  cases s <;> rfl

theorem readSwitches_cons {s : Switch} {read : SwitchesRead}
    (hnew : s ∉ read.items.map (·.1)) (hhyphen : read.hyphen = none) (rest : List Char) :
    readSwitches read (s.letter :: rest) =
      readSwitches { read with
        items := (s, true, .ofFirst (s.letter :: rest)) :: read.items, dangling := false } rest := by
  have hfind : read.items.find? (·.1 = s) = none := by
    refine List.find?_eq_none.2 fun item hitem heq => hnew ?_
    exact List.mem_map.2 ⟨item, hitem, of_decide_eq_true heq⟩
  have hmarks : ¬ (s.letter = ':' ∨ s.letter = ')') ∧ s.letter ≠ '-' := by cases s <;> decide
  rw [readSwitches, if_neg hmarks.1, if_neg hmarks.2, Switch.ofChar?_letter]
  simp only [hfind, hhyphen, Option.isNone_none]

/-- Switches that have not been read yet are read as settings that turn them on. -/
theorem readSwitches_letters {switches : List Switch} {read : SwitchesRead}
    (hfresh : (read.items.map (·.1) ++ switches).Nodup) (hhyphen : read.hyphen = none)
    (rest : List Char) :
    ∃ read', readSwitches read (switches.map Switch.letter ++ ')' :: rest) =
        .ok (read', ')' :: rest) ∧
      read'.settings = read.settings ++ switches.map (·, true) := by
  induction switches generalizing read with
  | nil =>
    refine ⟨read, ?_, (List.append_nil _).symm⟩
    simp [readSwitches, hhyphen]
  | cons s more ih =>
    have hnew : s ∉ read.items.map (·.1) := by
      intro hmem
      exact (List.nodup_append.1 hfresh).2.2 s hmem s List.mem_cons_self rfl
    rw [List.map_cons, List.cons_append, readSwitches_cons hnew hhyphen]
    generalize Extent.ofFirst (s.letter :: (more.map Switch.letter ++ ')' :: rest)) = here
    have hfresh' : (((s, true, here) :: read.items).map (·.1) ++ more).Nodup :=
      (List.perm_middle.nodup_iff).1 hfresh
    obtain ⟨read', hread', hsettings⟩ :=
      @ih { read with items := (s, true, here) :: read.items, dangling := false } hfresh' hhyphen
    refine ⟨read', hread', ?_⟩
    rw [hsettings]
    simp [SwitchesRead.settings]

/-- A group of switches alone makes settings that turn them on. -/
theorem readOpening_switches {switches : List Switch} (hne : switches ≠ [])
    (hnodup : switches.Nodup) (names : GroupNames) (rest : List Char) :
    readOpening false names ('?' :: (switches.map Switch.letter ++ ')' :: rest)) =
      .ok (.settings (switches.map (·, true)), rest) := by
  obtain ⟨read, hread, hsettings⟩ := @readSwitches_letters switches {} hnodup rfl rest
  obtain ⟨s, more, rfl⟩ := List.exists_cons_of_ne_nil hne
  have hitems : read.items.isEmpty = false := by
    rw [List.isEmpty_eq_false_iff]
    intro hnil
    rw [SwitchesRead.settings, hnil] at hsettings
    cases hsettings
  have hsettings' : read.settings = (s :: more).map (·, true) := hsettings
  have hmarks : lookAroundMarks.find? (·.isPrefixOf
      ('?' :: s.letter :: (more.map Switch.letter ++ ')' :: rest))) = none := by
    cases s <;> simp [lookAroundMarks, Switch.letter]
  rw [List.map_cons, List.cons_append] at hread ⊢
  unfold readOpening
  simp only [skipLayout, Bool.false_eq_true, if_false, hmarks]
  -- the letter of a switch is neither an angle bracket nor the mark of a name
  cases s <;>
    simp only [Switch.letter] at hread ⊢ <;>
    simp [hread, hitems, hsettings', bind, Except.bind, pure, Except.pure]

/-! ## Reading behind switches -/

/-- What has been read of a text is passed over. -/
theorem readItems_of_suffix {text rest : List Char} (h : text <:+ rest) (r : Reading) :
    readItems r (rest.length - text.length) rest = readItems r 0 text := by
  obtain ⟨front, rfl⟩ := h
  rw [List.length_append, Nat.add_sub_cancel]
  induction front with
  | nil => rfl
  | cons c front ih => exact ih

theorem toList_inlined {switches : List Switch} (hne : switches ≠ []) (text : String) :
    (inlined switches text).toList =
      '(' :: '?' :: (switches.map Switch.letter ++ ')' :: text.toList) := by
  have hfull : switches.isEmpty = false := List.isEmpty_eq_false_iff.2 hne
  simp [inlined, hfull]

/-- The reading of a text in front of which switches are turned on starts with their settings, and
goes on where the reading of the text itself would start. -/
theorem readItems_inlined {switches : List Switch} (hne : switches ≠ []) (hnodup : switches.Nodup)
    {verbose : Bool}
    (hverbose : (Settings.get? (switches.map (·, true)) .verbose).getD false = verbose)
    (text : String) :
    ∃ e r, Reading.Led (.settings (switches.map (·, true)) e) (.start verbose text.toList) r ∧
      readItems (.start false (inlined switches text).toList) 0 (inlined switches text).toList =
        readItems r 0 text.toList := by
  have hopening := readOpening_switches hne hnodup [] text.toList
  have hsuffix : text.toList <:+ '?' :: (switches.map Switch.letter ++ ')' :: text.toList) :=
    ⟨'?' :: (switches.map Switch.letter ++ [')']), by simp⟩
  rw [toList_inlined hne]
  generalize '?' :: (switches.map Switch.letter ++ ')' :: text.toList) = rest at hopening hsuffix ⊢
  let first : Reading := Reading.start false ('(' :: rest)
  let e : Extent := ⟨rest.length + 1, text.toList.length⟩
  let r : Reading := { first.push (.settings (switches.map (·, true)) e) with verbose }
  have hitem : readItem first '(' rest = .ok (r, text.toList) := by
    show readGroup first rest = _
    rw [readGroup, show first.verbose = false from rfl, show first.names = [] from rfl, hopening]
    simp only [bind, Except.bind, hverbose]
    rfl
  refine ⟨e, r, .outermost rfl rfl (.current [] _ _) rfl rfl rfl, ?_⟩
  rw [readItems]
  show (if rest.length < rest.length then _ else _) = _
  rw [if_neg (Nat.lt_irrefl _)]
  simp only [first] at hitem ⊢
  rw [hitem]
  exact readItems_of_suffix hsuffix r

/-! ## Meanings -/

variable {m m' : Modes} {e : Expr} {settings : Settings} {extent : Extent} {t t' : Tree}

theorem Tree.meanings_cons {tree : Tree} {m₁ m₂ : Modes} {d : Expr} {ds : List Expr}
    {rest : List Tree} (hd : tree.meaning m = .ok (d, m₁))
    (hds : Tree.meanings m₁ rest = .ok (ds, m₂)) :
    Tree.meanings m (tree :: rest) = .ok (d :: ds, m₂) := by
  simp only [Tree.meanings, hd, hds, bind, Except.bind, pure, Except.pure]

theorem Tree.meaning_concat {parts : List Tree} {es : List Expr}
    (h : Tree.meanings m parts = .ok (es, m')) :
    (Tree.concat parts extent).meaning m = .ok (Expr.sequence es, m') := by
  rw [Tree.meaning, h]
  rfl

/-- Settings in front of a tree are the modes in which it is read. -/
theorem Tree.Fronted.meaning (h : Tree.Fronted (.settings settings extent) t t')
    (he : t.meaning (m.apply settings) = .ok (e, m')) : t'.meaning m = .ok (e, m') := by
  have hfront : (Tree.settings settings extent).meaning m = .ok (.empty, m.apply settings) := rfl
  cases h with
  | empty _ => exact he
  | single =>
    have hnil : Tree.meanings m' [] = .ok ([], m') := rfl
    have hparts := Tree.meanings_cons hfront (Tree.meanings_cons he hnil)
    rw [Tree.meaning_concat hparts, Expr.sequence_empty_cons,
      (Expr.settled_of_meaning he).sequence_singleton]
  | concat ts _ _ =>
    obtain ⟨⟨es, m₁⟩, hes, he⟩ := exists_of_bind_eq_ok he
    obtain ⟨rfl, rfl⟩ := Prod.mk.inj (Except.ok.inj he)
    rw [← Expr.sequence_empty_cons]
    exact Tree.meaning_concat (Tree.meanings_cons hfront hes)

theorem Tree.Led.meaning (h : Tree.Led (.settings settings extent) t t')
    (he : t.meaning (m.apply settings) = .ok (e, m')) : t'.meaning m = .ok (e, m') := by
  cases h with
  | whole hfront => exact hfront.meaning he
  | branch more _ _ hfront =>
    obtain ⟨⟨es, m₁⟩, hes, he⟩ := exists_of_bind_eq_ok he
    obtain ⟨rfl, rfl⟩ := Prod.mk.inj (Except.ok.inj he)
    obtain ⟨⟨d, m₂⟩, hd, hes⟩ := exists_of_bind_eq_ok hes
    obtain ⟨⟨ds, m₃⟩, hds, hes⟩ := exists_of_bind_eq_ok hes
    obtain ⟨rfl, rfl⟩ := Prod.mk.inj (Except.ok.inj hes)
    have hbranches := Tree.meanings_cons (hfront.meaning hd) hds
    rw [Tree.meaning, hbranches]
    rfl

/-! ## Flags -/

theorem mem_switchesOf {flags : Flags} {s : Switch} : s ∈ switchesOf flags ↔ turnOn flags s := by
  cases s <;> simp [switchesOf, turnOn]

theorem nodup_switchesOf (flags : Flags) : (switchesOf flags).Nodup :=
  List.Nodup.sublist List.filter_sublist (by decide)

theorem get?_turnedOn (switches : List Switch) (s : Switch) :
    Settings.get? (switches.map (·, true)) s = if s ∈ switches then some true else none := by
  induction switches with
  | nil => rfl
  | cons t more ih =>
    show (((t, true) :: more.map (·, true)).lookup s) = _
    by_cases h : s = t
    · subst h
      simp
    · have hne : (s == t) = false := beq_false_of_ne h
      rw [List.lookup_cons, hne]
      simp only [List.mem_cons, h, false_or]
      exact ih

/-- A tree is the inside of the outermost level that has been read. -/
theorem Tree.exists_of_ofText {verbose : Bool} {text : List Char} {tree : Tree}
    (h : Tree.ofText verbose text = .ok tree) :
    ∃ r, readItems (.start verbose text) 0 text = .ok r ∧ r.outer = [] ∧ tree = r.body 0 := by
  obtain ⟨r, hr, h⟩ := exists_of_bind_eq_ok h
  split at h
  · cases h
  · next houter =>
    simp only at h
    split at h
    · cases h
    · exact ⟨r, hr, houter, (Except.ok.inj h).symm⟩

/-- What flags mean for a text is their modes and whether they allow for layout. -/
theorem machineOf_congr {f g : Flags} (hmodes : modesOf f = modesOf g)
    (hverbose : f.ignoreWhitespace = g.ignoreWhitespace) (text : List Char) :
    machineOf text f = machineOf text g := by
  rw [machineOf, machineOf, exprOf, exprOf, hmodes, hverbose]

section Turned

variable {flags : Flags} {switches : List Switch} (h : switches.Perm (switchesOf flags))

include h

theorem getD_turnedOn (s : Switch) :
    (Settings.get? (switches.map (·, true)) s).getD false = turnOn flags s := by
  rw [get?_turnedOn]
  by_cases hs : s ∈ switches
  · rw [if_pos hs, mem_switchesOf.1 (h.mem_iff.1 hs)]
    rfl
  · have hoff : turnOn flags s = false := by
      rw [h.mem_iff, mem_switchesOf] at hs
      exact Bool.eq_false_iff.2 hs
    rw [if_neg hs, hoff]
    rfl

/-- The switches of flags, turned on, make the modes of the flags. -/
theorem apply_turnedOn : (modesOf .empty).apply (switches.map (·, true)) = modesOf flags := by
  have hswitch := getD_turnedOn h
  have hunicode : Settings.get? (switches.map (·, true)) .unicode = none := by
    rw [get?_turnedOn, if_neg (by simp [h.mem_iff, mem_switchesOf, turnOn])]
  have hempty : modesOf .empty = {} := rfl
  simp only [hempty, Modes.apply, hswitch, hunicode]
  rfl

/-- A text means under flags what it means, without any, behind the switches of the flags. -/
theorem machineOf_inlined {text : String} {machine machine' : Machine}
    (hp : machineOf text.toList flags = .ok machine)
    (hq : machineOf (inlined switches text).toList .empty = .ok machine') : machine = machine' := by
  have hverbose := getD_turnedOn h .verbose
  have hmodes := apply_turnedOn h
  have hnodup := h.nodup_iff.2 (nodup_switchesOf flags)
  by_cases hne : switches = []
  · -- there is nothing in front
    subst hne
    have hsame : machineOf text.toList flags = machineOf text.toList .empty :=
      machineOf_congr hmodes.symm hverbose.symm _
    exact Except.ok.inj (hp.symm.trans (hsame.trans hq))
  · obtain ⟨tree, e, m, htree, hmeaning, rfl⟩ := exists_of_machineOf hp
    obtain ⟨tree', e', m', htree', hmeaning', rfl⟩ := exists_of_machineOf hq
    obtain ⟨r, hr, houter, rfl⟩ := Tree.exists_of_ofText htree
    obtain ⟨r', hr', houter', rfl⟩ := Tree.exists_of_ofText htree'
    obtain ⟨extent, first, hled, hfirst⟩ := readItems_inlined hne hnodup hverbose text
    obtain ⟨q, hq, hled'⟩ := hled.readItems hr
    obtain rfl : q = r' := Except.ok.inj (hq.symm.trans (hfirst.symm.trans hr'))
    have hbody := (hled'.body houter 0).2
    rw [← hmodes] at hmeaning
    have hboth := (hbody.meaning hmeaning).symm.trans hmeaning'
    rw [(Prod.mk.inj (Except.ok.inj hboth)).1]

end Turned

/-- Flags that agree on the named bits mean the same. -/
theorem machineOf_of_named {f g : Flags} (h : f.bits &&& 0x1F = g.bits &&& 0x1F)
    (text : List Char) : machineOf text f = machineOf text g := by
  have hhas (bit : UInt8) (hbit : 0x1F &&& bit = bit) : f.has bit = g.has bit := by
    have hmask (a : UInt8) : a &&& bit = (a &&& 0x1F) &&& bit := by rw [UInt8.and_assoc, hbit]
    rw [Flags.has, Flags.has, hmask f.bits, hmask g.bits, h]
  have hmodes : modesOf f = modesOf g := by
    simp only [modesOf, Flags.caseInsensitive, Flags.multiLine, Flags.dotMatchesNewLine,
      Flags.swapGreed, hhas 1 rfl, hhas 2 rfl, hhas 4 rfl, hhas 16 rfl]
  exact machineOf_congr hmodes (hhas 8 rfl) text

/-- The match of a machine at an offset of a text. -/
def Machine.matchAt (machine : Machine) (text : String) (offset : Nat) : Option Span := do
  let (before, rest) ← seek? none text.toList offset
  let count ← machine.match? before rest
  return ⟨offset, offset + byteSize (rest.take count)⟩

/-- What a pattern matches is what its machine does. -/
theorem matchAt_eq_machine (p : Pattern) : p.matchAt = p.machine.matchAt := rfl

theorem map_matchAt_compile (text : String) (f : Flags) :
    (compile text f).map matchAt = (machineOf text.toList f).map Machine.matchAt := by
  unfold compile
  split
  · next machine hmachine => exact (congrArg (Except.map Machine.matchAt) hmachine).symm
  · next refusal hrefusal => exact (congrArg (Except.map Machine.matchAt) hrefusal).symm

/-- **Flags mean the inline flags**: a pattern under flags matches what it matches, without any,
behind the switches of these flags in any order. Flags that agree on the named bits make patterns
that match alike, and refuse the same texts for the same reasons. -/
theorem matchAt_inlined (text : String) (f : Flags) :
    (∀ switches p q, switches.Perm (switchesOf f) → compile text f = .ok p →
      compile (inlined switches text) .empty = .ok q →
      ∀ haystack offset, p.matchAt haystack offset = q.matchAt haystack offset) ∧
    ∀ g : Flags, f.bits &&& 0x1F = g.bits &&& 0x1F →
      (compile text f).map matchAt = (compile text g).map matchAt := by
  constructor
  · intro switches p q hswitches hp hq haystack offset
    obtain ⟨rfl, rfl⟩ := compile_eq_ok hp
    obtain ⟨htext, hflags⟩ := compile_eq_ok hq
    have hcompiles := q.compiles
    rw [htext, hflags] at hcompiles
    have hmachine := machineOf_inlined hswitches p.compiles hcompiles
    rw [matchAt_eq_machine, matchAt_eq_machine, hmachine]
  · intro g hbits
    rw [map_matchAt_compile, map_matchAt_compile, machineOf_of_named hbits]

theorem exists_compile {text : String} {f : Flags} {test : Pattern → Bool}
    (h : (compile text f).toOption.any test = true) :
    ∃ p, compile text f = .ok p ∧ test p = true := by
  cases hc : compile text f with
  | error refusal => rw [hc] at h; cases h
  | ok p => rw [hc] at h; exact ⟨p, rfl, h⟩

/-- Layout, lines and the dot: three flags, their switches in another order, and a group that turns
one of them off again. -/
theorem matchAt_inlined_lines :
    inlined [.multiLine, .dotAll, .verbose] "a . $ (?-x: )*" = "(?msx)a . $ (?-x: )*" ∧
      ∃ p q, compile "a . $ (?-x: )*" ⟨14⟩ = .ok p ∧
        compile "(?msx)a . $ (?-x: )*" .empty = .ok q ∧
        (∀ haystack offset, p.matchAt haystack offset = q.matchAt haystack offset) ∧
        q.matchAt "ba\n\n " 1 = some ⟨1, 3⟩ ∧
        (compile "a . $ (?-x: )*" ⟨0xEE⟩).map matchAt = .ok p.matchAt := by
  have htext : inlined [.multiLine, .dotAll, .verbose] "a . $ (?-x: )*" =
      "(?msx)a . $ (?-x: )*" := by decide +kernel
  obtain ⟨p, hp, -⟩ : ∃ p, compile "a . $ (?-x: )*" ⟨14⟩ = .ok p ∧ true :=
    exists_compile (by decide +kernel)
  obtain ⟨q, hq, hmatch⟩ : ∃ q, compile "(?msx)a . $ (?-x: )*" .empty = .ok q ∧
      decide (q.matchAt "ba\n\n " 1 = some ⟨1, 3⟩) = true := exists_compile (by decide +kernel)
  obtain ⟨hsame, hnamed⟩ := matchAt_inlined "a . $ (?-x: )*" ⟨14⟩
  refine ⟨htext, p, q, hp, hq, ?_, of_decide_eq_true hmatch, ?_⟩
  · exact hsame [.multiLine, .dotAll, .verbose] p q (by decide) hp (htext ▸ hq)
  · rw [← hnamed ⟨0xEE⟩ rfl, hp]
    rfl

end ScanRules.Pattern
