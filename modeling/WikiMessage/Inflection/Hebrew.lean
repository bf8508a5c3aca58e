import WikiMessage.Inflection.Ending

/-!
# Hebrew words after a preposition

A waw at the beginning is doubled, the article is dropped, and a maqaf stands before what is not a
Hebrew letter.
-/

namespace WikiMessage.Inflection

def waw : Char := 'ו'

def article : Char := 'ה'

def maqaf : Char := '־'

def isHebrewLetter (c : Char) : Bool := 'א' ≤ c && c ≤ 'ת'

def doubleWaw : List Char → List Char
  | c :: cs => if c = waw && cs.head? ≠ some waw then waw :: c :: cs else c :: cs
  | [] => []

def dropArticle : List Char → List Char
  | c :: cs => if c = article then cs else c :: cs
  | [] => []

def withMaqaf (word : List Char) : List Char :=
  if word.head?.any isHebrewLetter then word else maqaf :: word

def hebrew : Rule := fun word form =>
  if form = "prefixed" || form = "תחילית" then withMaqaf (dropArticle (doubleWaw word)) else word

end WikiMessage.Inflection
