/-!
# Edit distance

The least number of characters to insert, delete or replace to turn one text into another. The
distances from a text to all tails of another are found together, one row for each tail of the
first.
-/

namespace WikiMessage.Text

namespace EditDistance

/-- The row for `x :: xs` from the row for `xs`: the entry of a tail of the other text comes from
deleting `x`, inserting the tail's first character, or matching the two. -/
def nextRow (x : Char) : List Char → List Nat → List Nat
  | [], row => [row.headD 0 + 1]
  | y :: ys, row =>
    let below := nextRow x ys row.tail
    let diagonal := row.tail.headD 0
    min (if x = y then diagonal else diagonal + 1) (min (row.headD 0) (below.headD 0) + 1) :: below

/-- The distances from the first text to the tails of the second, longest tail first. -/
def row (ys : List Char) : List Char → List Nat
  | [] => (List.range (ys.length + 1)).reverse
  | x :: xs => nextRow x ys (row ys xs)

end EditDistance

def editDistance (xs ys : List Char) : Nat := (EditDistance.row ys xs).headD 0

example : editDistance "kitten".toList "sitting".toList = 3 := by decide

theorem editDistance_nil_left (ys : List Char) : editDistance [] ys = ys.length := by
  simp [editDistance, EditDistance.row, List.range_succ]

end WikiMessage.Text
