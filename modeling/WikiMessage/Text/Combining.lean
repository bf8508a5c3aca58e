import WikiMessage.Text.Combining.Table

/-!
# Combining characters

A combining character belongs to the one before it. Nearly all are drawn on that character; the
halfwidth voicing marks stand beside it.
-/

namespace WikiMessage.Text

def isCombining (c : Char) : Bool := Combining.combiningRanges.contains c

/-- Whether the character is drawn on the one before it. -/
def isOverlaid (c : Char) : Bool := isCombining c && c ≠ '\uff9e' && c ≠ '\uff9f'

/-- The character without a look of its own that joins those around it. -/
def joiner : Char := '\u200d'

end WikiMessage.Text
