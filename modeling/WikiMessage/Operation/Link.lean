import WikiMessage.Text.Affix
import WikiMessage.Text.Blank
import WikiMessage.Text.Escape

/-!
# Anchors

Links are rendered as anchors whose attribute values are escaped. A web link whose address has a
scheme that is not known to be harmless is rendered as its label alone.
-/

namespace WikiMessage.Operation

open WikiMessage.Text

/-- A page's title without a colon in front and blanks around it. -/
def pageTitle (target : List Char) : List Char := trimChars ((dropStart? [':'] target).getD target)

/-- The address of a page: its title with underscores for spaces. -/
def pageAddress (title : List Char) : List Char :=
  "./".toList ++ title.map fun c => if c = ' ' then '_' else c

def pageAnchor (target : String) (label : Option String) : String :=
  let title := pageTitle target.toList
  "<a href=\"" ++ String.ofList (escapeChars (pageAddress title)) ++ "\" title=\"" ++
    String.ofList (escapeChars title) ++ "\">" ++ label.getD (String.ofList title) ++ "</a>"

def allowedSchemes : List String :=
  ["http", "https", "ftp", "ftps", "sftp", "mailto", "news", "irc", "ircs", "tel", "geo"]

/-- A letter, then letters, digits, `+`, `-` and `.`. -/
def isScheme (cs : List Char) : Bool :=
  cs.head?.any Char.isAlpha && cs.all fun c => c.isAlphanum || c = '+' || c = '-' || c = '.'

/-- Whether an address has an allowed scheme or none. Blanks and controls are overlooked, and what
stands before the first colon is a scheme if it looks like one. -/
def isSafeAddress (address : List Char) : Bool :=
  match cutAt? ':' (address.filter fun c => !isBlank c && !isControl c) with
  | none => true
  | some (scheme, _) =>
    !isScheme scheme || allowedSchemes.contains (String.ofList (scheme.map Char.toLower))

def webAnchor (target label : String) : String :=
  let address := trimChars target.toList
  if isSafeAddress address then
    "<a href=\"" ++ String.ofList (escapeChars address) ++ "\">" ++ label ++ "</a>"
  else label

end WikiMessage.Operation
