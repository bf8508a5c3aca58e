import WikiMessage.Numeral.Power

/-!
# Decimal digits

Writing a natural number or an integer in decimal digits, and reading the bounded numbers of the
machine: a sign, digits, and a value in range.
-/

namespace WikiMessage.Numeral

/-- The digits of a natural number, without leading zeros. -/
def digits (n : Nat) : List Char := Nat.toDigits 10 n

/-- The value of a list of decimal digits. -/
def value (ds : List Char) : Nat := Nat.ofDigitChars 10 ds 0

/-- The digits of an integer, with a minus in front of a negative one. -/
def signedDigits (n : Int) : List Char :=
  if n < 0 then '-' :: digits n.natAbs else digits n.natAbs

def text (n : Nat) : String := String.ofList (digits n)

def signedText (n : Int) : String := String.ofList (signedDigits n)

def isDigits (cs : List Char) : Bool := !cs.isEmpty && cs.all Char.isDigit

/-- The digits after a point at the beginning, and what follows them. -/
def splitFraction : List Char → List Char × List Char
  | '.' :: cs => (cs.takeWhile Char.isDigit, cs.dropWhile Char.isDigit)
  | cs => ([], cs)

/-- One bound for all unsigned numbers: they are below two to the power of 64. -/
def unsignedBound : Nat := twoTo 64

/-- Digits whose value is below the bound. -/
def readDigits? (cs : List Char) : Option Nat :=
  if isDigits cs && value cs < unsignedBound then some (value cs) else none

/-- An unsigned number below the bound; a plus may stand in front of it. -/
def readUnsigned? : List Char → Option Nat
  | '+' :: cs => readDigits? cs
  | cs => readDigits? cs

/-- A signed number of 64 bits; a plus or a minus may stand in front of it. -/
def readSigned? (cs : List Char) : Option Int :=
  let negative := cs.head? = some '-'
  let body := if negative || cs.head? = some '+' then cs.tail else cs
  if isDigits body then
    let n : Int := if negative then -(value body : Int) else value body
    if -(twoTo 63 : Int) ≤ n && n < twoTo 63 then some n else none
  else none

@[simp] theorem value_digits (n : Nat) : value (digits n) = n :=
  Nat.ofDigitChars_toDigits (by decide) (by decide)

theorem value_zeros_append (k : Nat) (ds : List Char) :
    value (List.replicate k '0' ++ ds) = value ds := by
  induction k with
  | zero => rfl
  | succ k ih => exact ih

end WikiMessage.Numeral
