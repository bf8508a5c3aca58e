import WikiMessage.Text.Blank
import WikiMessage.Text.Combining
import WikiMessage.Text.Width.Table

/-! # Columns that a character takes by itself -/

namespace WikiMessage.Text.Width

/-- The sign that joins two Tifinagh consonants, and is seen where it does not. -/
def consonantJoiner : Char := '\u2d7f'

def isColumnless (c : Char) : Bool :=
  (isOverlaid c && c ≠ consonantJoiner) || zeroRanges.contains c

/-- A control takes one column. Two Khmer signs are as wide as the letters they stand for. -/
def ofChar (c : Char) : Nat :=
  if isControl c then 1
  else if c = '\u17a4' then 2
  else if c = '\u17d8' then 3
  else if isColumnless c then 0
  else if wideRanges.contains c then 2
  else 1

end WikiMessage.Text.Width
