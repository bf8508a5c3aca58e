import WikiMessage.Numeral.Double.Read

/-!
# Single-precision numbers

A number of 32 bits is a double-precision number with fewer digits. Reading one rounds to those
digits, and what was read is then an exact double-precision number.
-/

namespace WikiMessage.Numeral.Single

/-- The nearest multiple of a single-precision spacing to `num / den`, as a quotient. -/
def nearest (num den : Nat) : Nat × Nat :=
  let scaled := num * twoTo 149
  let shift := (scaled / den).log2 - 23
  (roundHalfEven scaled (den * twoTo shift) * twoTo shift, twoTo 149)

/-- Two to the power of 128, where single-precision numbers end. -/
def bound : Nat := twoTo 128

def ofRatio (negative : Bool) (num den : Nat) : Double :=
  let (n, d) := nearest num den
  if bound * d ≤ n then .infinite negative else .ofRatio negative n d

def ofDecimal (negative : Bool) (mantissa : Nat) (exponent : Int) : Double :=
  if mantissa = 0 then .zero negative
  else if exponent > 400 then .infinite negative
  else if 0 ≤ exponent then ofRatio negative (mantissa * tenTo exponent.toNat) 1
  else if (mantissa.log2 : Int) + 400 < -exponent then .zero negative
  else ofRatio negative mantissa (tenTo (-exponent).toNat)

def read? (cs : List Char) : Option Double := Double.readWith? ofDecimal cs

end WikiMessage.Numeral.Single
