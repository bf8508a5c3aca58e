import WikiMessage.Locale.Tag

/-!
# Well-formed locale identifiers

A locale identifier is a language of two or three letters, then a script, a region and variants,
each if it is there at all, and then extensions. A subtag of one letter or digit begins an
extension; an extension has at least one subtag, and none begins twice. Nor does a variant stand
twice beside others. Case does not matter.
-/

namespace WikiMessage.Locale.Identifier

abbrev Subtag := List Char

def isAlphabetic (s : Subtag) : Bool := s.all Char.isAlpha

def isAlphanumeric (s : Subtag) : Bool := s.all Char.isAlphanum

def hasLength (least greatest : Nat) (s : Subtag) : Bool :=
  least ≤ s.length && s.length ≤ greatest

def isLanguage (s : Subtag) : Bool := hasLength 2 3 s && isAlphabetic s

def isScript (s : Subtag) : Bool := hasLength 4 4 s && isAlphabetic s

def isRegion (s : Subtag) : Bool :=
  (hasLength 2 2 s && isAlphabetic s) || (hasLength 3 3 s && s.all Char.isDigit)

def isVariant (s : Subtag) : Bool :=
  isAlphanumeric s &&
    (hasLength 5 8 s || (hasLength 4 4 s && s.head?.any Char.isDigit))

/-- A word of an extension. -/
def isWord (least : Nat) (s : Subtag) : Bool := hasLength least 8 s && isAlphanumeric s

/-- The key of a keyword: a letter or digit and a letter. -/
def isKey : Subtag → Bool
  | [a, b] => a.isAlphanum && b.isAlpha
  | _ => false

/-- The key of a transformed field: a letter and a digit. -/
def isFieldKey : Subtag → Bool
  | [a, b] => a.isAlpha && b.isDigit
  | _ => false

/-- The attributes of a keyword extension, then keys with their words; what follows is left. -/
def afterKeywords (subtags : List Subtag) : List Subtag :=
  go false (subtags.dropWhile (isWord 3))
where
  go (inKeyword : Bool) : List Subtag → List Subtag
    | [] => []
    | s :: rest =>
      if isKey s then go true rest
      else if inKeyword && isWord 3 s then go true rest
      else s :: rest

/-- What follows the variants, unless one of them stands twice. -/
def afterVariants? (seen : List Subtag) : List Subtag → Option (List Subtag)
  | [] => some []
  | s :: rest =>
    if isVariant s then if seen.contains s then none else afterVariants? (s :: seen) rest
    else some (s :: rest)

/-- The subtags without a first one of a kind. -/
def dropFirst (p : Subtag → Bool) : List Subtag → List Subtag
  | [] => []
  | s :: rest => if p s then rest else s :: rest

/-- What follows a language with its script, region and variants. Without a language that is all. -/
def afterLanguage? : List Subtag → Option (List Subtag)
  | [] => some []
  | s :: rest =>
    if isLanguage s then afterVariants? [] (dropFirst isRegion (dropFirst isScript rest))
    else some (s :: rest)

/-- Where a subtag stands among transformed fields. -/
inductive FieldPosition
  | outside
  | afterKey
  | afterWord
  deriving DecidableEq, Repr

/-- What follows the fields, unless a key has no words. -/
def afterFields? (position : FieldPosition) : List Subtag → Option (List Subtag)
  | [] => if position = .afterKey then none else some []
  | s :: rest =>
    if position ≠ .outside && isWord 3 s then afterFields? .afterWord rest
    else if position = .afterKey then none
    else if isFieldKey s then afterFields? .afterKey rest
    else some (s :: rest)

/-- What is left after an extension, or nothing if the extension is empty or not well formed. -/
def afterExtension? (mark : Char) (subtags : List Subtag) : Option (List Subtag) :=
  let rest? :=
    if mark = 'u' then some (afterKeywords subtags)
    else if mark = 't' then (afterLanguage? subtags).bind (afterFields? .outside)
    else if mark = 'x' then some (subtags.dropWhile (isWord 1))
    else some (subtags.dropWhile (isWord 2))
  rest?.filter fun rest => rest.length < subtags.length

/-- Whether extensions with marks other than `seen` follow to the end, `bound` of them at most. -/
def areExtensions : Nat → List Char → List Subtag → Bool
  | _, _, [] => true
  | bound + 1, seen, [mark] :: rest =>
    mark.isAlphanum && !seen.contains mark &&
      match afterExtension? mark rest with
      | some rest => areExtensions bound (mark :: seen) rest
      | none => false
  | _, _, _ => false

def subtagsOf (tag : String) : List Subtag := (tag.toList.map Char.toLower).splitOnP (· = '-')

def isWellFormed (tag : String) : Bool :=
  let subtags := subtagsOf tag
  subtags.head?.any isLanguage &&
    match afterLanguage? subtags with
    | some rest => areExtensions rest.length [] rest
    | none => false

end WikiMessage.Locale.Identifier
