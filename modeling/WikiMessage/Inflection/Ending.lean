import WikiMessage.Text.Affix

/-!
# Endings of words

Inflection by endings: a word that has one of the listed endings gets another in its place.
-/

namespace WikiMessage.Inflection

open WikiMessage.Text

/-- An inflection of a word to a form. A form that is not known leaves the word unchanged. -/
abbrev Rule := List Char → String → List Char

/-- The word with `ending` replaced, if it ends so. -/
def replaceEnd? (word : List Char) (ending replacement : String) : Option (List Char) :=
  (dropEnd? ending.toList word).map (· ++ replacement.toList)

/-- The word with the first of the listed endings that it has replaced. -/
def replaceFirst? (word : List Char) (endings : List (String × String)) : Option (List Char) :=
  endings.findSome? fun (ending, replacement) => replaceEnd? word ending replacement

/-- The word with `ending` replaced, if it ends so when the case of A to Z does not count. -/
def replaceEndAnyCase? (word : List Char) (ending replacement : String) : Option (List Char) :=
  let stem := word.take (word.length - ending.length)
  if (word.drop stem.length).map Char.toLower = ending.toList then
    some (stem ++ replacement.toList)
  else none

theorem replaceEnd?_eq_some {word result : List Char} {ending replacement : String} :
    replaceEnd? word ending replacement = some result ↔
      ∃ stem, word = stem ++ ending.toList ∧ result = stem ++ replacement.toList := by
  simp only [replaceEnd?, Option.map_eq_some_iff, dropEnd?_eq_some]
  constructor
  · rintro ⟨stem, h, rfl⟩
    exact ⟨stem, h, rfl⟩
  · rintro ⟨stem, h, rfl⟩
    exact ⟨stem, h, rfl⟩

end WikiMessage.Inflection
