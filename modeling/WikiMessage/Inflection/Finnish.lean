import WikiMessage.Inflection.Ending
import WikiMessage.Text.Grapheme
import WikiMessage.Text.LowerCase

/-!
# Finnish cases

The vowels of an ending agree with the last of the word's vowels that takes part in harmony. A word
that ends in a consonant gets an `i` before the ending.
-/

namespace WikiMessage.Inflection

open WikiMessage.Text

def harmonyVowels : List Char := "aouäöy".toList

def backVowels : List Char := "aou".toList

def finnishConsonants : List Char := "bcdfghjklmnpqrstvwxz".toList

/-- Whether endings take back vowels. Words in "wiki" never do. -/
def hasBackHarmony (word : List Char) : Bool :=
  (dropEnd? "wiki".toList (lowerChars word)).isNone &&
    (((word.flatMap LowerCase.lowerChar).filter harmonyVowels.contains).getLast?.any
      backVowels.contains)

def finnishStem (word : List Char) : List Char :=
  if word.getLast?.any fun c => finnishConsonants.contains c.toLower then word ++ ['i'] else word

def finnish : Rule := fun word form =>
  let stem := finnishStem word
  let harmonic (back front : String) :=
    stem ++ (if hasBackHarmony word then back else front).toList
  match form with
  | "genitive" => stem ++ ['n']
  | "elative" => harmonic "sta" "stä"
  | "partitive" => harmonic "a" "ä"
  | "illative" => stem ++ Grapheme.last stem ++ ['n']
  | "inessive" => harmonic "ssa" "ssä"
  | _ => word

end WikiMessage.Inflection
