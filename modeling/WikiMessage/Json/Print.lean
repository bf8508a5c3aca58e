import WikiMessage.Json.Basic
import WikiMessage.Numeral.Double.Shortest
import WikiMessage.Numeral.Digits

/-!
# Printing JSON

Items and members stand on lines of their own, indented by two blanks for each bracket around them.
Empty brackets stay together. Characters that need no escape are printed as they are.
-/

namespace WikiMessage.Json

def hexDigit (n : Nat) : Char := ("0123456789abcdef".toList[n]?).getD '0'

def escapeChar (c : Char) : List Char :=
  if c = '\x22' then ['\\', '\x22']
  else if c = '\\' then ['\\', '\\']
  else if c = '\x08' then ['\\', 'b']
  else if c = '\x0c' then ['\\', 'f']
  else if c = '\n' then ['\\', 'n']
  else if c = '\r' then ['\\', 'r']
  else if c = '\t' then ['\\', 't']
  else if c.toNat < 0x20 then
    ['\\', 'u', '0', '0', hexDigit (c.toNat / 16), hexDigit (c.toNat % 16)]
  else [c]

def printString (s : String) : String :=
  String.ofList ('\x22' :: s.toList.flatMap escapeChar ++ ['\x22'])

/-- The beginning of a line inside so many brackets. -/
def newLine (level : Nat) : String := String.ofList ('\n' :: List.replicate (2 * level) ' ')

/-- Printed items between brackets, each on its line. -/
def printBracketed (opening closing : String) (level : Nat) (items : List String) : String :=
  if items.isEmpty then opening ++ closing
  else
    opening ++ ",".intercalate (items.map fun item => newLine (level + 1) ++ item) ++
      newLine level ++ closing

mutual

def printAt (level : Nat) : Json → String
  | null => "null"
  | bool b => if b then "true" else "false"
  | integer n => Numeral.signedText n
  | float x => x.toText
  | string s => printString s
  | array items => printBracketed "[" "]" level (printItems (level + 1) items)
  | object members => printBracketed "\x7b" "\x7d" level (printMembers (level + 1) members)

def printItems (level : Nat) : List Json → List String
  | [] => []
  | item :: items => printAt level item :: printItems level items

def printMembers (level : Nat) : List (String × Json) → List String
  | [] => []
  | (name, value) :: members =>
    (printString name ++ ": " ++ printAt level value) :: printMembers level members

end

def print (value : Json) : String := printAt 0 value

end WikiMessage.Json
