import Mathlib.Data.List.TakeWhile
import ScanRules.Flags

/-!
# Flags and their written form

Every set of flags has a written form, those without a name included, and it is read as it was.

- `trimBlanks_of_trimmed`: blanks around a text that has none at its own ends.
- `Flags.splitBars_append`: a text is split at each bar.
- `Flags.Part`: a part of the written form, standing for bits. It is read whatever blanks are around
  it.
- `Flags.entries`: the parts of the written form and their bits.
- `Flags.ofWritten_written`.
-/

namespace ScanRules

/-- A text that neither starts nor ends with a blank. -/
def Trimmed (text : List Char) : Bool :=
  text.head?.any (!isBlank ·) && text.getLast?.any (!isBlank ·)

theorem dropBlanks_append {blanks text : List Char} (h : ∀ c ∈ blanks, isBlank c)
    (htext : text.head?.any (!isBlank ·)) : dropBlanks (blanks ++ text) = text := by
  rw [dropBlanks, List.dropWhile_append_of_pos h]
  cases text with
  | nil => cases htext
  | cons c text => exact List.dropWhile_cons_of_neg (by simpa using htext)

/-- Blanks around a text are taken off. -/
theorem trimBlanks_of_trimmed {before text after : List Char} (h : Trimmed text)
    (hbefore : ∀ c ∈ before, isBlank c) (hafter : ∀ c ∈ after, isBlank c) :
    trimBlanks (before ++ text ++ after) = text := by
  rw [Trimmed, Bool.and_eq_true] at h
  obtain ⟨hhead, hlast⟩ := h
  have hfront : dropBlanks (before ++ text ++ after) = text ++ after := by
    rw [List.append_assoc]
    refine dropBlanks_append hbefore ?_
    cases text with
    | nil => cases hhead
    | cons c text => exact hhead
  have hback : dropBlanks (after.reverse ++ text.reverse) = text.reverse := by
    refine dropBlanks_append (fun c hc => hafter c (List.mem_reverse.1 hc)) ?_
    rwa [List.head?_reverse]
  rw [trimBlanks, hfront, List.reverse_append, hback, List.reverse_reverse]

/-- Something is left of a text that does not start with a blank. -/
theorem trimBlanks_ne_nil {text : List Char} (h : text.head?.any (!isBlank ·)) :
    trimBlanks text ≠ [] := by
  have hfront : dropBlanks text = text := dropBlanks_append (List.forall_mem_nil _) h
  cases text with
  | nil => cases h
  | cons c text =>
    rw [trimBlanks, hfront, dropBlanks, Ne, List.reverse_eq_nil_iff, List.dropWhile_eq_nil_iff]
    intro hall
    have hc := hall c (List.mem_reverse.2 List.mem_cons_self)
    simp [hc] at h

namespace Flags

theorem splitBars_append {text : List Char} (h : '|' ∉ text) (rest : List Char) :
    splitBars (text ++ '|' :: rest) = text :: splitBars rest := by
  induction text with
  | nil => rfl
  | cons c text ih =>
    rw [List.mem_cons, not_or] at h
    obtain ⟨hc, htext⟩ := h
    rw [List.cons_append, splitBars, if_neg (Ne.symm hc), ih htext]

theorem splitBars_of_not_mem {text : List Char} (h : '|' ∉ text) : splitBars text = [text] := by
  induction text with
  | nil => rfl
  | cons c text ih =>
    rw [List.mem_cons, not_or] at h
    obtain ⟨hc, htext⟩ := h
    rw [splitBars, if_neg (Ne.symm hc), ih htext]

/-- A part of the written form of flags that stands for these bits. -/
structure Part (text : List Char) (bits : UInt8) : Prop where
  trimmed : Trimmed text
  bar_not_mem : '|' ∉ text
  ofPart_eq : ofPart text = .ok ⟨bits⟩

/-- Blanks around a part do not matter. -/
theorem Part.ofPart_append {before text after : List Char} {bits : UInt8} (h : Part text bits)
    (hbefore : ∀ c ∈ before, isBlank c) (hafter : ∀ c ∈ after, isBlank c) :
    ofPart (before ++ text ++ after) = .ok ⟨bits⟩ := by
  have hself : trimBlanks ([] ++ text ++ []) = text := trimBlanks_of_trimmed h.trimmed nofun nofun
  rw [List.nil_append, List.append_nil] at hself
  rw [← h.ofPart_eq, ofPart, ofPart, trimBlanks_of_trimmed h.trimmed hbefore hafter, hself]

/-- Names stand for their bits. -/
theorem part_of_mem_named : ∀ e ∈ named, Part e.1.toList e.2 := by
  have hall : ∀ e ∈ named,
      Trimmed e.1.toList ∧ '|' ∉ e.1.toList ∧ ofPart e.1.toList = .ok ⟨e.2⟩ := by
    decide +kernel
  intro e he
  obtain ⟨htrimmed, hbar, hpart⟩ := hall e he
  exact ⟨htrimmed, hbar, hpart⟩

/-- A hexadecimal number stands for the bits of its value. -/
theorem part_hexDigits (bits : UInt8) :
    Part ('0' :: 'x' :: hexDigits bits.toNat) bits := by
  have hall : ∀ n < 256, Trimmed ('0' :: 'x' :: hexDigits n) ∧ '|' ∉ '0' :: 'x' :: hexDigits n ∧
      ofPart ('0' :: 'x' :: hexDigits n) = .ok ⟨.ofNat n⟩ := by
    decide +kernel
  obtain ⟨htrimmed, hbar, hpart⟩ := hall bits.toNat bits.toNat_lt
  rw [UInt8.ofNat_toNat] at hpart
  exact ⟨htrimmed, hbar, hpart⟩

/-- The parts of the written form with the bits that they stand for. -/
def entries (f : Flags) : List (String × UInt8) :=
  named.filter (f.has ·.2) ++
    if f.unnamed == 0 then [] else [("0x" ++ String.ofList (hexDigits f.unnamed.toNat), f.unnamed)]

theorem parts_eq (f : Flags) : f.parts = f.entries.map (·.1) := by
  rw [parts, entries, List.map_append]
  split <;> rfl

theorem part_of_mem_entries {f : Flags} : ∀ e ∈ f.entries, Part e.1.toList e.2 := by
  intro e he
  rcases List.mem_append.1 he with he | he
  · exact part_of_mem_named e (List.mem_filter.1 he).1
  · split at he
    · cases he
    · obtain rfl := List.mem_singleton.1 he
      simpa using part_hexDigits f.unnamed

/-- The parts stand for all bits together. -/
theorem foldl_entries (f : Flags) : f.entries.foldl (fun g e => g ∪ ⟨e.2⟩) empty = f := by
  have hall : ∀ n < 256,
      (entries ⟨.ofNat n⟩).foldl (fun g e => g ∪ ⟨e.2⟩) empty = ⟨.ofNat n⟩ := by
    decide +kernel
  have hbits := hall f.bits.toNat f.bits.toNat_lt
  rwa [UInt8.ofNat_toNat] at hbits

/-- The written form starts like its first part. -/
theorem head?_intercalate_any {entries : List (String × UInt8)}
    (h : ∀ e ∈ entries, Part e.1.toList e.2) (hne : entries ≠ []) :
    ([' ', '|', ' '].intercalate (entries.map (·.1.toList))).head?.any (!isBlank ·) := by
  match entries with
  | [] => exact absurd rfl hne
  | e :: entries =>
    have htrimmed := (h e List.mem_cons_self).trimmed
    rw [Trimmed, Bool.and_eq_true] at htrimmed
    cases hpart : e.1.toList with
    | nil =>
      rw [hpart] at htrimmed
      cases htrimmed.1
    | cons c part =>
      rw [hpart] at htrimmed
      cases entries with
      | nil => simpa [hpart] using htrimmed.1
      | cons e' entries => simpa [hpart, List.intercalate_cons_cons] using htrimmed.1

/-- Parts with bars between them are read one by one. -/
theorem foldlM_splitBars {entries : List (String × UInt8)}
    (h : ∀ e ∈ entries, Part e.1.toList e.2) (hne : entries ≠ []) {before : List Char}
    (hbefore : ∀ c ∈ before, c = ' ') (g : Flags) :
    (splitBars (before ++ [' ', '|', ' '].intercalate (entries.map (·.1.toList)))).foldlM
        (fun f part => do return f ∪ (← ofPart part)) g =
      .ok (entries.foldl (fun g e => g ∪ ⟨e.2⟩) g) := by
  have hblank : ∀ c : Char, c = ' ' → isBlank c := by
    rintro c rfl
    rfl
  have hbar : '|' ∉ before := fun hmem => absurd (hbefore _ hmem) (by decide)
  induction entries generalizing before g with
  | nil => exact absurd rfl hne
  | cons e entries ih =>
    obtain ⟨he, hentries⟩ := List.forall_mem_cons.1 h
    cases entries with
    | nil =>
      have hlast := he.ofPart_append (fun c hc => hblank c (hbefore c hc))
        (List.forall_mem_nil _)
      rw [List.append_nil] at hlast
      rw [List.map_singleton, List.intercalate_singleton,
        splitBars_of_not_mem (by simp [hbar, he.bar_not_mem]), List.foldlM_cons, hlast]
      rfl
    | cons e' entries =>
      have hfirst := he.ofPart_append (fun c hc => hblank c (hbefore c hc))
        (List.forall_mem_singleton.2 (hblank ' ' rfl))
      have hrest := ih hentries (List.cons_ne_nil _ _) (List.forall_mem_singleton.2 rfl)
        (g ∪ ⟨e.2⟩) (by decide)
      have htext : before ++ [' ', '|', ' '].intercalate ((e :: e' :: entries).map (·.1.toList)) =
          (before ++ e.1.toList ++ [' ']) ++
            '|' :: ([' '] ++ [' ', '|', ' '].intercalate ((e' :: entries).map (·.1.toList))) := by
        simp only [List.map_cons, List.intercalate_cons_cons, List.append_assoc, List.cons_append,
          List.nil_append]
      rw [htext, splitBars_append (by simp [hbar, he.bar_not_mem]), List.foldlM_cons, hfirst]
      exact hrest

/-- **Flags are read as they were written**, and those without a name are no exception. -/
theorem ofWritten_written (f : Flags) : ofWritten f.written = .ok f := by
  have hwritten : f.written.toList =
      [' ', '|', ' '].intercalate (f.entries.map (·.1.toList)) := by
    rw [written, parts_eq, String.toList_intercalate, List.map_map]
    rfl
  have hfold := foldl_entries f
  by_cases hne : f.entries = []
  · -- nothing is written, and a blank text has no flags
    rw [hne] at hwritten hfold
    rw [ofWritten, hwritten, ← hfold]
    rfl
  · have hread := foldlM_splitBars part_of_mem_entries hne (List.forall_mem_nil _) empty
    rw [List.nil_append, ← hwritten, hfold] at hread
    have hvisible : trimBlanks f.written.toList ≠ [] := by
      refine trimBlanks_ne_nil ?_
      rw [hwritten]
      exact head?_intercalate_any part_of_mem_entries hne
    rw [ofWritten, if_neg (by simpa using hvisible), hread]

end Flags

end ScanRules
