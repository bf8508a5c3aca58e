import WikiMessage.Inflection.Declension
import WikiMessage.Inflection.Finnish
import WikiMessage.Inflection.Hebrew
import WikiMessage.Inflection.Ossetian
import WikiMessage.Inflection.Phrase
import WikiMessage.Locale.Tag

/-! # The languages whose words are inflected -/

namespace WikiMessage.Inflection

def languageRule? : String → Option Rule
  | "bs" => some bosnian
  | "dsb" => some sorbian
  | "fi" => some finnish
  | "ga" => some irish
  | "he" => some hebrew
  | "hsb" => some sorbian
  | "hu" => some hungarian
  | "hy" => some armenian
  | "la" => some latin
  | "os" => some ossetian
  | "ru" => some russian
  | "sl" => some slovenian
  | "uk" => some ukrainian
  | _ => none

/-- The rule of the first of a tag and its truncations that has one. -/
def rule? (tag : String) : Option Rule :=
  (Locale.truncations tag).findSome? fun t => languageRule? (Text.lowerAscii t)

/-- The word in a form of the language, or the word itself if the language has no rule. -/
def inflect (tag word form : String) : String :=
  match rule? tag with
  | some rule => String.ofList (rule word.toList form)
  | none => word

end WikiMessage.Inflection
