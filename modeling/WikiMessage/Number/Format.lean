import WikiMessage.Number.Script
import WikiMessage.Number.Symbols
import WikiMessage.Numeral.Double.Read
import WikiMessage.Text.Blank

/-!
# Formatting numbers and reading them back

A number is formatted for the first of several tags that is an identifier. Reading undoes it: the
separators of the language are found out from a formatted sample.
-/

namespace WikiMessage.Number

open WikiMessage.Text

/-- Where the symbols of a tag come from. There are none for a tag that is no identifier. -/
abbrev SymbolSource : Type := String → Option Symbols

/-- The number as the first usable tag writes it. If there is none, only its digits are those of the
first tag's script. A text that is no number has no format. -/
def formatWith? (source : SymbolSource) (number : String) (tags : List String) : Option String :=
  let cs := trimChars number.toList
  (Decimal.read? cs).map fun d =>
    match tags.findSome? source with
    | some symbols => String.ofList (symbols.format d)
    | none => String.ofList (toNativeChars (tags.headD "") cs)

/-- A number that every language with separators writes with one of each at least. -/
def sample : Decimal := ⟨.none, "1234567".toList, "5".toList⟩

/-- The separator between groups, if the language groups, and the one before the fraction. -/
structure Separators where
  group : Option Char
  point : Char
  deriving DecidableEq, Repr

def separatorsWith? (source : SymbolSource) (tag : String) : Option Separators := do
  let symbols ← source tag
  let marks := (toLatinChars tag (symbols.format sample)).filter fun c => !c.isDigit
  let point ← marks.getLast?
  some ⟨if marks.length = 1 then none else marks.head?, point⟩

/-- The separators of a tag; without any of its own they are a comma and a point. -/
def separatorsWith (source : SymbolSource) (tag : String) : Separators :=
  (separatorsWith? source tag).getD ⟨some ',', '.'⟩

/-- A character of a formatted number as it is read: separators between groups are dropped, and the
one before the fraction is a point. -/
def readChar (s : Separators) (c : Char) : Option Char :=
  if some c = s.group then none
  else if c = s.point then some '.'
  else if c = '\u066c' || c = '\u00a0' || c = '\u202f' then none
  else if c = '\u066b' then some '.'
  else some c

/-- What is read as a number in the place of a formatted text. -/
def plainChars (source : SymbolSource) (text tag : String) : List Char :=
  (toLatinChars tag (trimChars text.toList)).filterMap (readChar (separatorsWith source tag))

/-- The number that a language writes as the text, if it is one and not infinite. -/
def parseWith? (source : SymbolSource) (text tag : String) : Option Numeral.Double :=
  (Numeral.Double.read? (plainChars source text tag)).filter (·.isFinite)

end WikiMessage.Number
