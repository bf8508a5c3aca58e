import WikiMessage.Text.Combining
import WikiMessage.Text.Quoted.Table

/-!
# Quoted text

A text between double quotes in which every character can be seen: quotes, backslashes and the
common controls have short escapes, and other characters that leave no mark of their own are
written by their code point.
-/

namespace WikiMessage.Text

namespace Quoted

def hexDigits (n : Nat) : List Char := Nat.toDigits 16 n

def isUnprintable (c : Char) : Bool := unprintableRanges.contains c

def encodeChar (c : Char) : List Char :=
  if c = '\x00' then ['\\', '0']
  else if c = '\t' then ['\\', 't']
  else if c = '\r' then ['\\', 'r']
  else if c = '\n' then ['\\', 'n']
  else if c = '\\' then ['\\', '\\']
  else if c = '\x22' then ['\\', '\x22']
  else if isOverlaid c || isUnprintable c then
    ['\\', 'u', '\x7b'] ++ hexDigits c.toNat ++ ['\x7d']
  else [c]

end Quoted

def quoted (s : String) : String :=
  String.ofList ('\x22' :: s.toList.flatMap Quoted.encodeChar ++ ['\x22'])

/-- The quoted texts between brackets, with a comma and a space between two of them. -/
def quotedList (ss : List String) : String :=
  "[" ++ ", ".intercalate (ss.map quoted) ++ "]"

end WikiMessage.Text
