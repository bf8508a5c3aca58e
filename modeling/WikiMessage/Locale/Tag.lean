import WikiMessage.Text.Blank
import WikiMessage.Text.LowerCase

/-!
# Locale tags

A tag names a language by subtags that `-` or `_` separates, as in `pt-BR` or `zh_Hant_TW`. Tags
that differ only in case, in the separators or in blanks around them have one normal form.
-/

namespace WikiMessage.Locale

open WikiMessage.Text

def isSeparator (c : Char) : Bool := c = '-' || c = '_'

/-- The normal form of a tag: trimmed, in small letters, with `-` between subtags. -/
def normalizeChars (tag : List Char) : List Char :=
  (lowerChars (trimChars tag)).map fun c => if c = '_' then '-' else c

def normalize (tag : String) : String := String.ofList (normalizeChars tag.toList)

/-- The subtags of a tag, as they are written. -/
def subtags (tag : String) : List (List Char) :=
  ((trimChars tag.toList).splitOnP isSeparator).filter fun subtag => !subtag.isEmpty

def ofSubtags (parts : List (List Char)) : String := String.ofList (['-'].intercalate parts)

/-- The tag of the first subtags, of the first but the last, and so on to the first alone. -/
def truncations (tag : String) : List String :=
  let parts := subtags tag
  (List.range parts.length).reverse.map fun k => ofSubtags (parts.take (k + 1))

@[simp] theorem toList_normalize (tag : String) :
    (normalize tag).toList = normalizeChars tag.toList := by
  simp [normalize]

end WikiMessage.Locale
