import ScanRules.CharSet
import ScanRules.Unicode.Age
import ScanRules.Unicode.Category
import ScanRules.Unicode.Property
import ScanRules.Unicode.Script
import ScanRules.Unicode.ScriptExtensions
import ScanRules.Unicode.Segmentation
import ScanRules.Unicode.Value

/-!
# Asking for characters by property

- `named?`: the set that a single name stands for, which is a binary property, a general category
  or a script, in this order.
- `valued?`: the set of characters that have a given value of a given property.

A query fails for one of two causes (`QueryFault`): the property is not known, or its value is not.
-/

namespace ScanRules.Unicode

/-- Why a query has no answer. -/
inductive QueryFault where
  | unknownProperty
  | unknownValue
  deriving DecidableEq, Repr

/-- The properties with named values that can be asked for. -/
inductive ValuedProperty where
  | age
  | generalCategory
  | graphemeBreak
  | script
  | scriptExtensions
  | sentenceBreak
  | wordBreak
  deriving DecidableEq, Repr

/-- The long and short names of these properties. -/
def ValuedProperty.names : List (ValuedProperty × List String) :=
  [ (.age, ["Age"]),
    (.generalCategory, ["General_Category", "gc"]),
    (.graphemeBreak, ["Grapheme_Cluster_Break", "GCB"]),
    (.script, ["Script", "sc"]),
    (.scriptExtensions, ["Script_Extensions", "scx"]),
    (.sentenceBreak, ["Sentence_Break", "SB"]),
    (.wordBreak, ["Word_Break", "WB"]) ]

/-- The names of the properties that the standard defines and that cannot be asked for. -/
def otherProperties : List String :=
  [ "bc", "Bidi_Class", "blk", "Block", "bmg", "Bidi_Mirroring_Glyph", "bpb",
    "Bidi_Paired_Bracket", "bpt", "Bidi_Paired_Bracket_Type", "ccc", "Canonical_Combining_Class",
    "CE", "Composition_Exclusion", "cf", "Case_Folding", "Comp_Ex", "Full_Composition_Exclusion",
    "CWKCF", "Changes_When_NFKC_Casefolded", "dm", "Decomposition_Mapping", "dt",
    "Decomposition_Type", "ea", "East_Asian_Width", "EqUIdeo", "Equivalent_Unified_Ideograph",
    "FC_NFKC", "FC_NFKC_Closure", "hst", "Hangul_Syllable_Type", "InCB", "Indic_Conjunct_Break",
    "InPC", "Indic_Positional_Category", "InSC", "Indic_Syllabic_Category", "isc", "ISO_Comment",
    "jg", "Joining_Group", "JSN", "Jamo_Short_Name", "jt", "Joining_Type", "lb", "Line_Break",
    "lc", "Lowercase_Mapping", "na", "Name", "na1", "Unicode_1_Name", "Name_Alias", "NFC_QC",
    "NFC_Quick_Check", "NFD_QC", "NFD_Quick_Check", "NFKC_CF", "NFKC_Casefold", "NFKC_QC",
    "NFKC_Quick_Check", "NFKC_SCF", "NFKC_Simple_Casefold", "NFKD_QC", "NFKD_Quick_Check", "nt",
    "Numeric_Type", "nv", "Numeric_Value", "scf", "Simple_Case_Folding", "sfc", "slc",
    "Simple_Lowercase_Mapping", "stc", "Simple_Titlecase_Mapping", "suc",
    "Simple_Uppercase_Mapping", "tc", "Titlecase_Mapping", "uc", "Uppercase_Mapping", "vo",
    "Vertical_Orientation", "XO_NFC", "Expands_On_NFC", "XO_NFD", "Expands_On_NFD", "XO_NFKC",
    "Expands_On_NFKC", "XO_NFKD", "Expands_On_NFKD", "cjkAccountingNumeric", "kAccountingNumeric",
    "cjkCompatibilityVariant", "kCompatibilityVariant", "cjkIICore", "kIICore", "cjkIRG_GSource",
    "kIRG_GSource", "cjkIRG_HSource", "kIRG_HSource", "cjkIRG_JSource", "kIRG_JSource",
    "cjkIRG_KPSource", "kIRG_KPSource", "cjkIRG_KSource", "kIRG_KSource", "cjkIRG_MSource",
    "kIRG_MSource", "cjkIRG_SSource", "kIRG_SSource", "cjkIRG_TSource", "kIRG_TSource",
    "cjkIRG_UKSource", "kIRG_UKSource", "cjkIRG_USource", "kIRG_USource", "cjkIRG_VSource",
    "kIRG_VSource", "cjkOtherNumeric", "kOtherNumeric", "cjkPrimaryNumeric", "kPrimaryNumeric",
    "cjkRSUnicode", "kRSUnicode", "Unicode_Radical_Stroke", "URS", "kEH_Cat", "kEH_Core",
    "kEH_Desc", "kEH_Func", "kEH_FVal", "kEH_HG", "kEH_IFAO", "kEH_JSesh", "kEH_NoMirror",
    "kEH_NoRotate", "kEH_UniK" ]

/-- The property with values that a loose name stands for. -/
def ValuedProperty.find? (loose : List Char) : Option ValuedProperty :=
  (names.find? fun p => p.2.any fun n => looseName n.toList == loose).map (·.1)

/-- Is there a property of this name, whether it can be asked for or not? -/
def isPropertyName (loose : List Char) : Bool :=
  (ValuedProperty.find? loose).isSome || (Value.find? Property.values loose).isSome ||
    otherProperties.any fun n => looseName n.toList == loose

/-- The values of a property. -/
def ValuedProperty.values : ValuedProperty → List Value
  | .age => Age.values
  | .generalCategory => Category.values
  | .graphemeBreak => Segmentation.graphemeBreaks
  | .script => Script.values
  | .scriptExtensions => ScriptExtensions.values
  | .sentenceBreak => Segmentation.sentenceBreaks
  | .wordBreak => Segmentation.wordBreaks

/-- The sets that are named like general categories without being one. -/
def broadCategories : List Value :=
  [ ⟨"Any", [], some .all⟩,
    ⟨"Assigned", [], some Category.assigned⟩,
    ⟨"ASCII", [], some (.range 0 0x7F)⟩ ]

/-- The general category, in the broad sense, of a loose name. -/
def category? (loose : List Char) : Option Value :=
  (Value.find? broadCategories loose).or (Value.find? Category.values loose)

/-- The characters of a value. -/
def Value.members (v : Value) : Except QueryFault CharSet :=
  v.members?.elim (.error .unknownValue) .ok

/-- The characters that a single name stands for. The short names of three properties also name
general categories, and these come first. -/
def named? (name : List Char) : Except QueryFault CharSet :=
  let loose := looseName name
  if ["cf", "sc", "lc"].all (·.toList != loose) && isPropertyName loose then
    (Value.find? Property.values loose).elim (.error .unknownProperty) Value.members
  else
    ((category? loose).or (Value.find? Script.values loose)).elim
      (.error .unknownProperty) Value.members

/-- The characters that have a value of a property. -/
def valued? (property value : List Char) : Except QueryFault CharSet :=
  let name := looseName property
  let loose := looseName value
  match ValuedProperty.find? name with
  | some .generalCategory => (category? loose).elim (.error .unknownValue) Value.members
  | some p => (Value.find? p.values loose).elim (.error .unknownValue) Value.members
  | none => .error (if isPropertyName name then .unknownValue else .unknownProperty)

end ScanRules.Unicode
