import WikiMessage.Language
import WikiMessage.Proofs.Text.Ascii

/-!
# What is assumed of language data

How languages write and sort numbers is not known here, and a result that needs to know something of
it says what: that no symbol opens a tag, that capitals in a tag do not matter, that the minus of
ASCII is neither a digit nor a separator, that the category of a number is one of the language's.
Data that is read from tables has these properties if the entries of the tables have them.
-/

namespace WikiMessage

open WikiMessage.Text

namespace Number

namespace Symbols

/-- The digits and the separators of a language. -/
def unsignedMarks (s : Symbols) : List Char := s.digits.toList ++ [s.group, s.point]

/-- The characters with which a language writes numbers. -/
def marks (s : Symbols) : List Char := s.unsignedMarks ++ (s.minus.toList ++ s.plus.toList)

end Symbols

namespace SymbolSource

/-- No symbol has the character that opens a tag. -/
def OpensNoTag (source : SymbolSource) : Prop :=
  ∀ tag s, source tag = some s → '<' ∉ s.marks

/-- The symbols of a tag do not depend on capitals. -/
def IgnoresCase (source : SymbolSource) : Prop :=
  ∀ tag, source (lowerAscii tag) = source tag

/-- The minus of ASCII is neither a digit nor a separator. -/
def KeepsMinus (source : SymbolSource) : Prop :=
  ∀ tag s, source tag = some s → '-' ∉ s.unsignedMarks

/-- The symbols that a table has for a tag in small letters. -/
def ofTable (table : List (String × Symbols)) : SymbolSource :=
  fun tag => table.lookup (lowerAscii tag)

variable {table : List (String × Symbols)}

theorem of_ofTable {P : Symbols → Prop} (h : ∀ r ∈ table, P r.2) {tag : String} {s : Symbols}
    (hs : ofTable table tag = some s) : P s := by
  obtain ⟨before, after, rfl, -⟩ := List.lookup_eq_some_iff.mp hs
  exact h (lowerAscii tag, s) (by simp)

theorem opensNoTag_ofTable (h : ∀ r ∈ table, '<' ∉ r.2.marks) : (ofTable table).OpensNoTag :=
  fun _ _ => of_ofTable (P := fun s => '<' ∉ s.marks) h

theorem ignoresCase_ofTable : (ofTable table).IgnoresCase := by
  intro tag
  rw [ofTable, ofTable, lowerAscii_lowerAscii]

theorem keepsMinus_ofTable (h : ∀ r ∈ table, '-' ∉ r.2.unsignedMarks) :
    (ofTable table).KeepsMinus :=
  fun _ _ => of_ofTable (P := fun s => '-' ∉ s.unsignedMarks) h

end SymbolSource
end Number

namespace Plural

theorem Category.mem_all (c : Category) : c ∈ all := by cases c <;> decide

namespace Rules

theorem other_mem (rules : Rules) : .other ∈ rules.categories := by
  simp [categories, Category.mem_all]

theorem category_mem (rules : Rules) (o : Operands) : rules.category o ∈ rules.categories := by
  unfold category
  split
  · rename_i c condition hf
    have hm : rules.any (fun r => r.1 = c) = true :=
      List.any_eq_true.mpr ⟨_, List.mem_of_find?_eq_some hf, by simp⟩
    exact List.mem_filter.mpr ⟨c.mem_all, by rw [hm, Bool.or_true]⟩
  · exact rules.other_mem

end Rules

/-- What rules promise: there are some for English, and the categories of a language are those of
its numbers and `other`. -/
structure Sound (source : RuleSource) : Prop where
  english : (source "en").isSome = true
  category_mem : ∀ {tag rules}, source tag = some rules → ∀ o, rules.category o ∈ rules.categories
  other_mem : ∀ {tag rules}, source tag = some rules → .other ∈ rules.categories

/-- The rules that a table has for a tag in small letters. -/
def RuleSource.ofTable (table : List (String × Rules)) : RuleSource :=
  fun tag => (table.lookup (lowerAscii tag)).map Rules.ruleSet

/-- Rules as they are written are sound, so that a table of them has only to know English. -/
theorem sound_ofTable {table : List (String × Rules)} (h : (table.lookup "en").isSome = true) :
    Sound (.ofTable table) where
  english := by
    have he : lowerAscii "en" = "en" := by decide
    rwa [RuleSource.ofTable, he, Option.isSome_map]
  category_mem h o := by
    obtain ⟨rules, -, rfl⟩ := Option.map_eq_some_iff.mp h
    exact rules.category_mem o
  other_mem h := by
    obtain ⟨rules, -, rfl⟩ := Option.map_eq_some_iff.mp h
    exact rules.other_mem

end Plural

namespace LanguageData

open Plural Operand

/-- How some languages write numbers. -/
def excerptSymbols : List (String × Number.Symbols) :=
  [("en", ⟨"0123456789", ',', '.', "-", "+", 3, 3, 1⟩),
    ("de", ⟨"0123456789", '.', ',', "-", "+", 3, 3, 1⟩),
    ("de-at", ⟨"0123456789", '\u00a0', ',', "-", "+", 3, 3, 1⟩),
    ("sv", ⟨"0123456789", '\u00a0', ',', "\u2212", "+", 3, 3, 1⟩),
    ("ar-eg", ⟨"٠١٢٣٤٥٦٧٨٩", '\u066c', '\u066b', "\u061c-", "\u061c+", 3, 3, 1⟩)]

/-- How some languages sort numbers. -/
def excerptRules : List (String × Rules) :=
  [("en", [(.one, [[i.is [(1, 1)], v.is [(0, 0)]]])]),
    ("ru", [(.one, [[v.is [(0, 0)], i.rem 10 [(1, 1)], i.remNot 100 [(11, 11)]]]),
      (.few, [[v.is [(0, 0)], i.rem 10 [(2, 4)], i.remNot 100 [(12, 14)]]]),
      (.many, [[v.is [(0, 0)], i.rem 10 [(0, 0)]], [v.is [(0, 0)], i.rem 10 [(5, 9)]],
        [v.is [(0, 0)], i.rem 100 [(11, 14)]]])]),
    ("ar", [(.zero, [[n.is [(0, 0)]]]),
      (.one, [[n.is [(1, 1)]]]),
      (.two, [[n.is [(2, 2)]]]),
      (.few, [[n.rem 100 [(3, 10)]]]),
      (.many, [[n.rem 100 [(11, 99)]]])])]

/-- The data of some languages; it has all that is assumed of language data. -/
def excerpt : LanguageData := ⟨.ofTable excerptSymbols, .ofTable excerptRules⟩

theorem opensNoTag_excerpt : excerpt.symbols.OpensNoTag :=
  Number.SymbolSource.opensNoTag_ofTable (by decide)

theorem ignoresCase_excerpt : excerpt.symbols.IgnoresCase :=
  Number.SymbolSource.ignoresCase_ofTable

theorem keepsMinus_excerpt : excerpt.symbols.KeepsMinus :=
  Number.SymbolSource.keepsMinus_ofTable (by decide)

theorem sound_excerpt : Sound excerpt.rules := sound_ofTable (by decide)

end LanguageData
end WikiMessage
