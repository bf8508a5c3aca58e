import WikiMessage.Numeral.Double.Shortest

/-!
# Numbers with fixed places

A finite number rounded to a given number of decimal places, a half to the even digit. It is the
number itself that is rounded, and not its shortest text.
-/

namespace WikiMessage.Numeral.Double

/-- A magnitude times ten to the power of `places`, rounded to a whole number. -/
def scaledRound (rank places : Nat) : Nat :=
  roundHalfEven (units rank * tenTo places) (twoTo leastPower)

def fixedChars (places : Nat) : Double → List Char
  | finite true rank => '-' :: positional (-places) (scaledRound rank places)
  | finite false rank => positional (-places) (scaledRound rank places)
  | x => x.toChars

def fixedText (places : Nat) (x : Double) : String := String.ofList (x.fixedChars places)

end WikiMessage.Numeral.Double
