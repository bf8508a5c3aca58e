import WikiMessage.Json.Number
import WikiMessage.Text.Affix
import WikiMessage.Text.Rule

/-!
# Reading JSON

The grammar is the strict one: no comments, no trailing commas, no leading zeros, no raw controls in
strings and no escape of half a surrogate pair. Numbers out of range and values nested too deeply
are refused as well.
-/

namespace WikiMessage.Json

open WikiMessage.Text

def isSpace (c : Char) : Bool := c = ' ' || c = '\n' || c = '\t' || c = '\r'

def skipSpace (cs : List Char) : List Char := cs.dropWhile isSpace

def hexValue? (c : Char) : Option Nat :=
  if c.isDigit then some (c.toNat - '0'.toNat)
  else if 'a' ≤ c && c ≤ 'f' then some (c.toNat - 'a'.toNat + 10)
  else if 'A' ≤ c && c ≤ 'F' then some (c.toNat - 'A'.toNat + 10)
  else none

/-- Four hexadecimal digits. -/
def hexQuad? (a b c d : Char) : Option Nat := do
  let a ← hexValue? a
  let b ← hexValue? b
  let c ← hexValue? c
  let d ← hexValue? d
  some (((a * 16 + b) * 16 + c) * 16 + d)

def isHighSurrogate (n : Nat) : Bool := 0xd800 ≤ n && n < 0xdc00

def isLowSurrogate (n : Nat) : Bool := 0xdc00 ≤ n && n < 0xe000

def escapedChar? : Char → Option Char
  | '\x22' => some '\x22'
  | '\\' => some '\\'
  | '/' => some '/'
  | 'b' => some '\x08'
  | 'f' => some '\x0c'
  | 'n' => some '\n'
  | 'r' => some '\r'
  | 't' => some '\t'
  | _ => none

/-- The second escape of a surrogate pair. -/
def lowEscape? : List Char → Option (Nat × List Char)
  | '\\' :: 'u' :: a :: b :: c :: d :: rest => do
    let low ← hexQuad? a b c d
    if isLowSurrogate low then some (low, rest) else none
  | _ => none

/-- One character of a string: the text is what follows the opening quote or a character before. -/
def stringChar : Rule Char
  | [] => none
  | '\\' :: 'u' :: a :: b :: c :: d :: rest => do
    let unit ← hexQuad? a b c d
    if isHighSurrogate unit then
      let (low, rest) ← lowEscape? rest
      some (Char.ofNat (0x10000 + (unit - 0xd800) * 0x400 + (low - 0xdc00)), rest)
    else if isLowSurrogate unit then none
    else some (Char.ofNat unit, rest)
  | '\\' :: c :: rest => (escapedChar? c).map fun c => (c, rest)
  | c :: rest => if c = '\x22' || c = '\\' || c.toNat < 0x20 then none else some (c, rest)

def readString : Rule String := fun cs => do
  let cs ← dropStart? ['\x22'] cs
  let (chars, cs) := Rule.repeated stringChar cs
  let cs ← dropStart? ['\x22'] cs
  some (String.ofList chars, cs)

def readWord : Rule Json := fun cs =>
  ((dropStart? "null".toList cs).map fun rest => (.null, rest)) <|>
    ((dropStart? "true".toList cs).map fun rest => (.bool true, rest)) <|>
    ((dropStart? "false".toList cs).map fun rest => (.bool false, rest))

/-- An item with a comma in front of it. -/
def afterComma {α : Type} (item : Rule α) : Rule α := fun cs => do
  let cs ← dropStart? [','] (skipSpace cs)
  item (skipSpace cs)

/-- Items between brackets, with commas between them. -/
def bracketed {α : Type} (opening closing : Char) (item : Rule α) : Rule (List α) := fun cs => do
  let cs ← dropStart? [opening] cs
  match dropStart? [closing] (skipSpace cs) with
  | some rest => some ([], rest)
  | none =>
    let (first, cs) ← item (skipSpace cs)
    let (more, cs) := Rule.repeated (afterComma item) cs
    let cs ← dropStart? [closing] (skipSpace cs)
    some (first :: more, cs)

def readMember (value : Rule Json) : Rule (String × Json) := fun cs => do
  let (name, cs) ← readString cs
  let cs ← dropStart? [':'] (skipSpace cs)
  let (v, cs) ← value (skipSpace cs)
  some ((name, v), cs)

def readScalar : Rule Json := fun cs =>
  ((readString cs).map fun (s, rest) => (.string s, rest)) <|> readNumber cs <|> readWord cs

/-- A value with at most so many arrays and objects around each of its parts. -/
def readValue : Nat → Rule Json
  | 0, cs => readScalar cs
  | depth + 1, cs =>
    ((bracketed '[' ']' (readValue depth) cs).map fun (items, rest) => (.array items, rest)) <|>
      ((bracketed '{' '}' (readMember (readValue depth)) cs).map
        fun (members, rest) => (.object members, rest)) <|>
      readScalar cs

/-- The greatest depth of arrays and objects inside one another. -/
def maxDepth : Nat := 127

/-- The value that a text is, members as they are written. -/
def read? (text : String) : Option Json :=
  match readValue maxDepth (skipSpace text.toList) with
  | some (value, rest) => if (skipSpace rest).isEmpty then some value else none
  | none => none

end WikiMessage.Json
