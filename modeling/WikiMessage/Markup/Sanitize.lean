import WikiMessage.Markup.Node
import WikiMessage.Text.Affix
import WikiMessage.Text.Blank
import WikiMessage.Text.LowerCase

/-!
# Markup that may be shown

Which elements, attributes and styles are passed on as markup. Names are compared without regard to
the case of the letters A to Z.
-/

namespace WikiMessage.Markup

open WikiMessage.Text

def allowedElements : List String :=
  ["b", "bdi", "del", "i", "ins", "u", "font", "big", "small", "sub", "sup", "h1", "h2", "h3", "h4",
    "h5", "h6", "cite", "code", "em", "s", "strike", "strong", "tt", "var", "div", "center",
    "blockquote", "ol", "ul", "dl", "table", "caption", "pre", "ruby", "rb", "rp", "rt", "rtc", "p",
    "span", "abbr", "dfn", "kbd", "samp", "data", "time", "mark", "li", "dt", "dd"]

def commonAttributes : List String :=
  ["id", "class", "style", "lang", "dir", "title", "aria-describedby", "aria-flowto", "aria-hidden",
    "aria-label", "aria-labelledby", "aria-owns", "role", "about", "property", "resource",
    "datatype", "typeof", "itemid", "itemprop", "itemref", "itemscope", "itemtype"]

/-- The attributes that only one element may carry. -/
def ownAttributes : String → List String
  | "font" => ["color", "size", "face"]
  | "data" => ["value"]
  | "time" => ["datetime"]
  | "bdo" => ["dir"]
  | _ => []

/-- Words of a style that run code or load something when the mark follows them. -/
def dangerousWords : List (String × Char) :=
  [("filter", ':'), ("accelerator", ':'), ("-o-link", ':'), ("-o-link-source", ':'),
    ("-o-replace", ':'), ("url", '('), ("image", '('), ("image-set", '(')]

/-- The controls that no style needs; tab, line feed, form feed and carriage return are not among
them. -/
def isStyleControl (c : Char) : Bool :=
  c.toNat ≤ 0x8 || c.toNat = 0xb || (0xe ≤ c.toNat && c.toNat ≤ 0x1f) || c.toNat = 0x7f

/-- Whether the text goes on, after blanks, with the mark. -/
def startsWithMark (mark : Char) (cs : List Char) : Bool :=
  (cs.dropWhile isBlank).head? == some mark

/-- Whether one of the occurrences of the word has the mark after it. -/
def wordWithMark (word : List Char) (mark : Char) (cs : List Char) : Bool :=
  (restsBehind word 0 cs).any (startsWithMark mark)

def isDangerousStyle (style : String) : Bool :=
  let cs := style.toList
  let lowered := lowerChars cs
  cs.any isStyleControl || occursIn "expression".toList lowered ||
    dangerousWords.any fun (word, mark) => wordWithMark word.toList mark lowered

/-- Whether an element of this tag may carry the attribute. The tag is in small letters. -/
def isAllowedAttribute (tag : String) (a : Attribute) : Bool :=
  let name := lowerAscii a.name
  (commonAttributes.contains name || (ownAttributes tag).contains name) &&
    !(name = "style" && isDangerousStyle a.value)

def isAllowedElement (tag : String) (attributes : List Attribute) : Bool :=
  let tag := lowerAscii tag
  allowedElements.contains tag && attributes.all (isAllowedAttribute tag)

end WikiMessage.Markup
