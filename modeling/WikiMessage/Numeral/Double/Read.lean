import WikiMessage.Numeral.Double

/-!
# Reading numbers

A number is a sign, digits with at most one point among them, and an exponent; the sign and the
exponent may be left out, and so may the digits on one side of the point. The words for infinity and
for what is no number are read as well, in any mixture of small letters and capitals.
-/

namespace WikiMessage.Numeral.Double

/-- The exponent at the end of a number, which is zero when nothing stands there. -/
def readExponent? : List Char → Option Int
  | [] => some 0
  | e :: cs =>
    if e = 'e' || e = 'E' then
      match cs with
      | '-' :: ds => if isDigits ds then some (-(value ds : Int)) else none
      | '+' :: ds => if isDigits ds then some (value ds : Int) else none
      | ds => if isDigits ds then some (value ds : Int) else none
    else none

/-- The magnitude of a number, as a whole number and a power of ten. -/
def readMagnitude? (cs : List Char) : Option (Nat × Int) :=
  let whole := cs.takeWhile Char.isDigit
  let (fraction, rest) := splitFraction (cs.dropWhile Char.isDigit)
  if whole.isEmpty && fraction.isEmpty then none
  else (readExponent? rest).map fun e => (value (whole ++ fraction), e - fraction.length)

def readUnsignedWith? (round : Bool → Nat → Int → Double) (negative : Bool) (cs : List Char) :
    Option Double :=
  match String.ofList (cs.map Char.toLower) with
  | "inf" | "infinity" => some (infinite negative)
  | "nan" => some nan
  | _ => (readMagnitude? cs).map fun (mantissa, exponent) => round negative mantissa exponent

/-- Reading with a way to round the exact value. -/
def readWith? (round : Bool → Nat → Int → Double) : List Char → Option Double
  | '-' :: cs => readUnsignedWith? round true cs
  | '+' :: cs => readUnsignedWith? round false cs
  | cs => readUnsignedWith? round false cs

def read? (cs : List Char) : Option Double := readWith? ofDecimal cs

end WikiMessage.Numeral.Double
