import WikiMessage.Numeral.Double

/-!
# The shortest text of a number

A finite number is written with the fewest digits that read back as that number, and of the texts
with so few digits with the nearest one. Grids of ever smaller powers of ten are searched for a
point among the values that round to the number; the last grid holds the number itself.
-/

namespace WikiMessage.Numeral.Double

/-- Twice the least and the greatest magnitude that round to a rank, in units of the least positive
number. The ends themselves round to the rank exactly when it is even. -/
def roundingEnds (rank : Nat) : Nat × Nat :=
  (units (rank - 1) + units rank, units rank + units (rank + 1))

/-- Whether `point / den` rounds to the rank. -/
def roundsTo (rank point den : Nat) : Bool :=
  let (low, high) := roundingEnds rank
  let twice := 2 * point * twoTo leastPower
  if rank % 2 = 0 then low * den ≤ twice && twice ≤ high * den
  else low * den < twice && twice < high * den

/-- The multiple of `num / den` nearest to the magnitude among those that round to the rank. It is
next to the magnitude; of two equally near multiples the greater is taken. -/
def gridPoint? (rank num den : Nat) : Option Nat :=
  let m := units rank * den
  let unit := num * twoTo leastPower
  let below := m / unit
  let downOk := roundsTo rank (below * num) den
  let upOk := roundsTo rank ((below + 1) * num) den
  if upOk && (!downOk || unit ≤ 2 * (m % unit)) then some (below + 1)
  else if downOk then some below
  else none

/-- A grid is ten to the power of `p`, as a quotient. -/
def grid (p : Int) : Nat × Nat :=
  if 0 ≤ p then (tenTo p.toNat, 1) else (1, tenTo (-p).toNat)

/-- The first grid with a point that rounds to the rank, from `top` downwards, and that point. -/
def firstGrid (rank : Nat) (top : Int) : Nat → Int × Nat
  | 0 => (top, units rank * Nat.pow 5 leastPower)
  | steps + 1 =>
    match gridPoint? rank (grid top).1 (grid top).2 with
    | some point => (top, point)
    | none => firstGrid rank (top - 1) steps

/-- A power of ten that the magnitude does not reach. -/
def topPower (rank : Nat) : Nat := (digits (units rank / twoTo leastPower)).length

/-- The digits of `point` times ten to the power of `p`, with a point where one is needed. -/
def positional (p : Int) (point : Nat) : List Char :=
  let ds := digits point
  if 0 ≤ p then ds ++ List.replicate p.toNat '0'
  else
    let places := (-p).toNat
    let padded := List.replicate (places + 1 - ds.length) '0' ++ ds
    padded.take (padded.length - places) ++ '.' :: padded.drop (padded.length - places)

def magnitudeText (rank : Nat) : List Char :=
  if rank = 0 then ['0']
  else
    let (p, point) := firstGrid rank (topPower rank) (topPower rank + leastPower)
    positional p point

def toChars : Double → List Char
  | nan => "NaN".toList
  | infinite true => "-inf".toList
  | infinite false => "inf".toList
  | finite true rank => '-' :: magnitudeText rank
  | finite false rank => magnitudeText rank

def toText (x : Double) : String := String.ofList x.toChars

end WikiMessage.Numeral.Double
