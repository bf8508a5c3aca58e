import WikiMessage.Markup.ParseError
import WikiMessage.Markup.Sanitize
import WikiMessage.Numeral.Digits
import WikiMessage.Text.Escape
import WikiMessage.Text.Rule

/-!
# The grammar of messages

An expression is a call `{{name:argument|argument}}`, a placeholder `$1`, a link, an element or a
run of text, tried in this order; a sigil that begins none of them is text itself. A backslash takes
the meaning off the character after it.

The rules are not recursive: each takes the rule for the expressions inside it. `expression` ties
the knot with a bound on the nesting, and the length of the text is always enough of it.
-/

namespace WikiMessage.Markup

open WikiMessage.Text

/-- Where in a message a rule is applied; this decides which characters end a run of text. -/
structure Scope where
  /-- Brackets make links. -/
  links : Bool
  /-- Among the children of an element, which a closing tag ends. -/
  inElement : Bool
  /-- In the label of a link, which a bracket ends. -/
  inLabel : Bool
  /-- In an argument of a call, which a bar or a brace ends. -/
  inArgument : Bool
  /-- At any depth inside a link, where no other link begins. -/
  inLink : Bool
  deriving DecidableEq, Repr

namespace Scope

def top (links : Bool) : Scope := ⟨links, false, false, false, false⟩

def element (s : Scope) : Scope := { s with inElement := true }

def label (s : Scope) : Scope := { s with inLabel := true, inArgument := false, inLink := true }

def target (s : Scope) : Scope := { s with inLink := true }

def argument (s : Scope) : Scope :=
  { s with inArgument := true, inElement := false, inLabel := false }

/-- Whether the character may stand for itself in a run of text. -/
def isPlain (s : Scope) (c : Char) : Bool :=
  if c = '{' || c = '}' || c = '$' || c = '\\' || c = '<' then false
  else if c = '[' || c = ']' then !s.links
  else if c = '|' then !s.inArgument
  else true

end Scope

/-- A character as it stands in a text node, where `<` is always escaped. -/
def textChar (c : Char) : List Char := if c = '<' then "&lt;".toList else [c]

/-- A character of class `plain`, or any character after a backslash. -/
def plainChar (plain : Char → Bool) : Rule (List Char)
  | [] => none
  | c :: cs =>
    if c = '\\' then
      match cs with
      | [] => none
      | d :: rest => some (textChar d, rest)
    else if plain c then some (textChar c, cs)
    else none

def textRun (plain : Char → Bool) : Rule Node := fun cs =>
  (Rule.repeated1 (plainChar plain) cs).map fun (pieces, rest) =>
    (.text (String.ofList pieces.flatten), rest)

/-- Whether a sigil that begins no construct is text here. Two opening braces never are, nor is
what may end the construct around it. -/
def isStray (s : Scope) : List Char → Bool
  | '$' :: _ | '[' :: _ => true
  | '{' :: cs => cs.head? ≠ some '{'
  | '}' :: _ => !s.inArgument
  | '<' :: cs => !(s.inElement && cs.head? = some '/')
  | ']' :: _ => !s.inLabel
  | _ => false

def stray (s : Scope) : Rule Node
  | [] => none
  | c :: cs => if isStray s (c :: cs) then some (.text (String.ofList (textChar c)), cs) else none

/-- `$1`, `$2` and so on. The number is at least one and below the bound of unsigned numbers. -/
def placeholder : Rule Node
  | '$' :: cs =>
    match Numeral.readDigits? (cs.takeWhile Char.isDigit) with
    | some (n + 1) => some (.placeholder n, cs.dropWhile Char.isDigit)
    | _ => none
  | _ => none

/-- The characters of a page title, but the colon and the bar that end a name. -/
def isNameChar (c : Char) : Bool :=
  c.isAlphanum || " !\"$&'()*+,-./;=?@^_\x60~".toList.contains c ||
    (0x80 ≤ c.toNat && c.toNat ≤ 0xff)

/-- An argument of a call: any number of expressions. -/
def argument (inner : Rule Node) (cs : List Char) : Node × List Char :=
  let (nodes, rest) := Rule.repeated inner cs
  (Node.collapse nodes, rest)

/-- An argument with the given mark in front of it. -/
def argumentAfter (mark : Char) (inner : Rule Node) : Rule Node
  | [] => none
  | c :: cs => if c = mark then some (argument inner cs) else none

/-- The argument after a colon, if there is one, and the arguments after bars. -/
def arguments (inner : Rule Node) (cs : List Char) : List Node × List Char :=
  match argumentAfter ':' inner cs with
  | some (first, rest) =>
    let (more, rest) := Rule.repeated (argumentAfter '|' inner) rest
    (first :: more, rest)
  | none => Rule.repeated (argumentAfter '|' inner) cs

def call (inner : Scope → Rule Node) (s : Scope) : Rule Node := fun cs => do
  let cs ← dropStart? ['{', '{'] cs
  let name := cs.takeWhile isNameChar
  if name.isEmpty then none
  else
    let (args, cs) := arguments (inner s.argument) (cs.dropWhile isNameChar)
    let cs ← dropStart? ['}', '}'] cs
    some (.call (String.ofList (trimChars name)) args, cs)

/-- A part of the target of a page link. -/
def pageTarget (inner : Scope → Rule Node) (s : Scope) : Rule Node := fun cs =>
  call inner s cs <|> placeholder cs <|> textRun s.argument.isPlain cs

/-- A part of the target of a web link, which a blank ends. -/
def webTarget (inner : Scope → Rule Node) (s : Scope) : Rule Node := fun cs =>
  call inner s cs <|> placeholder cs <|> textRun (fun c => s.isPlain c && !isBlank c) cs

/-- The label of a page link, if there is one. -/
def pageLabel (inner : Rule Node) : Rule (Option Node)
  | '|' :: cs => (Rule.repeated1 inner cs).map fun (nodes, rest) => (some (.collapse nodes), rest)
  | cs => some (none, cs)

/-- `[[target]]` or `[[target|label]]`. -/
def pageLink (inner : Scope → Rule Node) (s : Scope) : Rule Node := fun cs =>
  if s.links && !s.inLink then do
    let cs ← dropStart? ['[', '['] cs
    let (target, cs) ← Rule.repeated1 (pageTarget inner s.target) cs
    let (label, cs) ← pageLabel (inner s.label) cs
    let cs ← dropStart? [']', ']'] cs
    some (.pageLink (.collapse target) label, cs)
  else none

/-- The blanks that may stand between the parts of a tag or a link. -/
def isSpace (c : Char) : Bool := c = ' ' || c = '\t' || c = '\r' || c = '\n'

def spaces : Rule Unit
  | [] => none
  | c :: cs => if isSpace c then some ((), cs.dropWhile isSpace) else none

/-- `[target label]`. -/
def webLink (inner : Scope → Rule Node) (s : Scope) : Rule Node := fun cs =>
  if s.links && !s.inLink then do
    let cs ← dropStart? ['['] cs
    let (target, cs) ← Rule.repeated1 (webTarget inner s.target) cs
    let (_, cs) ← spaces cs
    let (label, cs) ← Rule.repeated1 (inner s.label) cs
    let cs ← dropStart? [']'] cs
    some (.webLink (.collapse target) (.collapse label), cs)
  else none

/-- A letter and characters of class `more`. -/
def word (more : Char → Bool) : Rule (List Char)
  | [] => none
  | c :: cs => if c.isAlpha then some (c :: cs.takeWhile more, cs.dropWhile more) else none

def tagName : Rule (List Char) := word Char.isAlphanum

def quotedValue : Rule (List Char)
  | [] => none
  | q :: cs => if q = '\x22' || q = '\x27' then cutAt? q cs else none

/-- A blank, a name, an equals sign and a quoted value. -/
def tagAttribute : Rule Attribute := fun cs => do
  let (_, cs) ← spaces cs
  let (name, cs) ← word (fun c => c.isAlphanum || c = '-') cs
  let cs ← dropStart? ['='] (cs.dropWhile isSpace)
  let (value, cs) ← quotedValue (cs.dropWhile isSpace)
  some (⟨String.ofList (name.map Char.toLower), String.ofList value⟩, cs)

structure OpenTag where
  tag : String
  attributes : List Attribute

def openTag : Rule OpenTag := fun cs => do
  let cs ← dropStart? ['<'] cs
  let (name, cs) ← tagName cs
  let (attributes, cs) := Rule.repeated tagAttribute cs
  let cs := cs.dropWhile isSpace
  let cs ← dropStart? ['>'] ((dropStart? ['/'] cs).getD cs)
  some (⟨String.ofList (name.map Char.toLower), attributes⟩, cs)

def closeTag : Rule String := fun cs => do
  let cs ← dropStart? ['<', '/'] cs
  let (name, cs) ← tagName cs
  let cs ← dropStart? ['>'] (cs.dropWhile isSpace)
  some (String.ofList (name.map Char.toLower), cs)

/-- The text of a tag that is not passed on as markup. -/
def escapedTag (tag : List Char) : Node := .text (String.ofList (escapeChars tag))

/-- An element with its children. Unless it is closed by its own tag and allowed, its tags are text
and its children stand for themselves. -/
def element (inner : Scope → Rule Node) (s : Scope) : Rule Node := fun cs => do
  let (opening, rest) ← openTag cs
  let (children, after) := Rule.repeated (inner s.element) rest
  let openText := escapedTag (Rule.taken cs rest)
  match closeTag after with
  | none => some (.concat (openText :: children), after)
  | some (name, left) =>
    if opening.tag = name && isAllowedElement opening.tag opening.attributes then
      some (.element opening.tag opening.attributes children, left)
    else
      some (.concat (openText :: children ++ [escapedTag (Rule.taken after left)]), left)

/-- One construct, where `inner` reads the expressions inside it. -/
def construct (inner : Scope → Rule Node) (s : Scope) : Rule Node := fun cs =>
  call inner s cs <|> placeholder cs <|> pageLink inner s cs <|> webLink inner s cs <|>
    element inner s cs <|> textRun s.isPlain cs <|> stray s cs

/-- One construct with at most so many others around each part of it. -/
def expression : Nat → Scope → Rule Node
  | 0, _, _ => none
  | depth + 1, s, cs => construct (expression depth) s cs

/-- The tree of a message; brackets make links in it if `links` says so. -/
def parse (links : Bool) (message : String) : Except ParseError Node :=
  let cs := message.toList
  let (nodes, rest) := Rule.repeated (expression cs.length (Scope.top links)) cs
  if rest.isEmpty then .ok (Node.concat nodes) else .error (ParseError.ofRest message rest)

end WikiMessage.Markup
