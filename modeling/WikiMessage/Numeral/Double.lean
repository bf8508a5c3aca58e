import WikiMessage.Numeral.Digits

/-!
# Double-precision numbers

The binary numbers of 64 bits, exactly. A finite one is a sign and a rank: its place among the
numbers that are not negative, counted from zero. Ranks grow with the numbers, and a number's
magnitude is a whole multiple of the least positive one, `Double.units`.
-/

namespace WikiMessage.Numeral

namespace Double

/-- The binary digits of a magnitude after the first one. -/
def fractionBits : Nat := 52

/-- The least positive number is two to the power of minus this. -/
def leastPower : Nat := 1074

/-- The first rank that no finite number has. -/
def rankBound : Nat := 2047 * twoTo fractionBits

/-- The magnitude of a rank, as a multiple of the least positive number. -/
def units (rank : Nat) : Nat :=
  if rank < twoTo fractionBits then rank
  else
    (twoTo fractionBits + rank % twoTo fractionBits) * twoTo (rank / twoTo fractionBits - 1)

end Double

inductive Double
  | nan
  | infinite (negative : Bool)
  | finite (negative : Bool) (rank : Fin Double.rankBound)
  deriving DecidableEq

/-- The quotient rounded to the nearest whole number, a half to the even one. -/
def roundHalfEven (num den : Nat) : Nat :=
  let q := num / den
  let twice := 2 * (num % den)
  if twice > den || (twice = den && q % 2 = 1) then q + 1 else q

namespace Double

def zero (negative : Bool) : Double := finite negative ⟨0, by decide⟩

def ofRank (negative : Bool) (rank : Nat) : Double :=
  if h : rank < rankBound then finite negative ⟨rank, h⟩ else infinite negative

/-- The rank nearest to `num / den`, where an even rank wins a tie. The unit is the spacing of the
numbers around the quotient. -/
def nearestRank (num den : Nat) : Nat :=
  let scaled := num * twoTo leastPower
  let shift := (scaled / den).log2 - fractionBits
  shift * twoTo fractionBits + roundHalfEven scaled (den * twoTo shift)

def ofRatio (negative : Bool) (num den : Nat) : Double :=
  ofRank negative (nearestRank num den)

def ofNat (n : Nat) : Double := ofRatio false n 1

def ofInt (n : Int) : Double := ofRatio (n < 0) n.natAbs 1

/-- The number nearest to `mantissa` times ten to the power of `exponent`. Exponents that leave no
doubt about the answer are not computed with. -/
def ofDecimal (negative : Bool) (mantissa : Nat) (exponent : Int) : Double :=
  if mantissa = 0 then zero negative
  else if exponent > 400 then infinite negative
  else if 0 ≤ exponent then ofRatio negative (mantissa * tenTo exponent.toNat) 1
  else if (mantissa.log2 : Int) + 400 < -exponent then zero negative
  else ofRatio negative mantissa (tenTo (-exponent).toNat)

def isFinite : Double → Bool
  | finite _ _ => true
  | _ => false

/-- Equality of numbers: no NaN equals anything, and the two zeros are equal. -/
def same : Double → Double → Bool
  | nan, _ | _, nan => false
  | infinite s, infinite t => s = t
  | finite s a, finite t b => a = b && (s = t || a.val = 0)
  | _, _ => false

/-- The whole number that a number is, if it is one. -/
def toInt? : Double → Option Int
  | finite negative rank =>
    if units rank % twoTo leastPower = 0 then
      let n := units rank / twoTo leastPower
      some (if negative then -n else n)
    else none
  | _ => none

end Double
end WikiMessage.Numeral
