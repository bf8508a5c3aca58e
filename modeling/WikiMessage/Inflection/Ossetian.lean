import WikiMessage.Inflection.Ending
import WikiMessage.Text.LowerCase

/-!
# Ossetian cases

An ending is joined to a vowel by `й` and to what is not an Ossetian letter by a hyphen. A plural
word loses its last vowel.
-/

namespace WikiMessage.Inflection

open WikiMessage.Text

def ossetianVowels : List Char := "аæеёиоыэюя".toList

def ossetianConsonants : List Char := "бвгджзйклмнопрстфхцчшщьъ".toList

/-- What the case endings of a word depend on. -/
structure OssetianWord where
  stem : List Char
  allative : String
  joint : String
  hyphen : String

namespace OssetianWord

/-- Whether `й` comes between the word and an ending. The letter `у` after a vowel is none. -/
def endsInVowel (lowered : List Char) : Bool :=
  match lowered.reverse with
  | c :: before =>
    ossetianVowels.contains c || (c = 'у' && !before.head?.any ossetianVowels.contains)
  | [] => false

/-- Whether the word ends in an Ossetian letter. -/
def endsInLetter (lowered : List Char) : Bool :=
  lowered.getLast?.any fun c =>
    c = 'у' || ossetianVowels.contains c || ossetianConsonants.contains c

def ofWord (word : List Char) : OssetianWord :=
  let lowered := word.flatMap LowerCase.lowerChar
  if (dropEnd? "тæ".toList (lowerChars word)).isSome then ⟨word.dropLast, "æм", "", ""⟩
  else if endsInVowel lowered then ⟨word, "мæ", "й", ""⟩
  else if endsInLetter lowered then ⟨word, "мæ", "", ""⟩
  else ⟨word, "мæ", "", "-"⟩

def ending? (w : OssetianWord) : String → Option String
  | "genitive" => some (w.hyphen ++ w.joint ++ "ы")
  | "dative" => some (w.hyphen ++ w.joint ++ "æн")
  | "allative" => some (w.hyphen ++ w.allative)
  | "ablative" => some (w.hyphen ++ w.joint ++ if w.joint = "й" then "æ" else "æй")
  | "superessive" => some (w.hyphen ++ w.joint ++ "ыл")
  | "equative" => some (w.hyphen ++ w.joint ++ "ау")
  | "comitative" => some (w.hyphen ++ "имæ")
  | _ => none

end OssetianWord

def ossetian : Rule := fun word form =>
  let w := OssetianWord.ofWord word
  match w.ending? form with
  | some e => w.stem ++ e.toList
  | none => word

end WikiMessage.Inflection
