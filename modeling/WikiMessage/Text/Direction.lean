import WikiMessage.Text.Direction.Table

/-!
# Direction of a text

The direction of a text is that of its first strongly directional character. A text with a
direction can be isolated: the text around it then does not change how it is laid out.
-/

namespace WikiMessage.Text

inductive Direction
  | leftToRight
  | rightToLeft
  deriving DecidableEq, Repr

namespace Direction

def ofChar? (c : Char) : Option Direction :=
  if rightToLeftRanges.contains c then some .rightToLeft
  else if leftToRightRanges.contains c then some .leftToRight
  else none

def ofChars? (cs : List Char) : Option Direction := cs.findSome? ofChar?

/-- The character that opens an isolate of this direction. -/
def isolate : Direction → Char
  | leftToRight => '\u2066'
  | rightToLeft => '\u2067'

/-- The character that closes an isolate. -/
def popIsolate : Char := '\u2069'

end Direction

/-- The text in an isolate of its own direction, or as it is if it has none. -/
def isolated (s : String) : String :=
  match Direction.ofChars? s.toList with
  | some d => String.ofList (d.isolate :: s.toList ++ [Direction.popIsolate])
  | none => s

end WikiMessage.Text
