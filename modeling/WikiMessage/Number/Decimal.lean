import WikiMessage.Numeral.Digits
import WikiMessage.Text.Affix

/-!
# Decimal numbers

A decimal number is a sign and digits before and after the point. Zeros at either end are part of
it, as they are shown when it is formatted. An exponent moves the point when the number is read.
The powers of ten that digits stand for are numbers of 16 bits.
-/

namespace WikiMessage.Number

open WikiMessage.Text

inductive Sign
  | none
  | plus
  | minus
  deriving DecidableEq, Repr

structure Decimal where
  sign : Sign
  /-- The digits before the point, at least one. -/
  whole : List Char
  fraction : List Char
  deriving DecidableEq, Repr

namespace Decimal

/-- The power of the first digit. -/
def upper (d : Decimal) : Int := d.whole.length - 1

/-- The power of the last digit. -/
def lower (d : Decimal) : Int := -d.fraction.length

/-- Whether digits may stand for the powers from `upper` down to `lower`. -/
def isRange (upper lower : Int) : Bool :=
  upper < Numeral.twoTo 15 && -(Numeral.twoTo 15 : Int) ≤ lower

/-- The digit of a power of ten; there are zeros outside the written digits. -/
def digitAt (d : Decimal) (power : Int) : Char :=
  if 0 ≤ power then d.whole.reverse[power.toNat]?.getD '0'
  else d.fraction[(-power - 1).toNat]?.getD '0'

/-- The powers of the first and of the last digit that is not zero, if there is one. -/
def significantPowers? (d : Decimal) : Option (Int × Int) :=
  let powers := (d.whole ++ d.fraction).mapIdx fun k c => ((d.whole.length : Int) - 1 - k, c)
  match powers.filter fun p => p.2 ≠ '0' with
  | [] => .none
  | p :: ps => some (p.1, ((p :: ps).getLast (by simp)).1)

/-- The digits from power `upper` down to power `lower`, after the point is moved by `shift`. -/
def shown (d : Decimal) (shift upper lower : Int) : Decimal where
  sign := d.sign
  whole := (List.range (upper.toNat + 1)).reverse.map fun (k : Nat) => d.digitAt ((k : Int) - shift)
  fraction := (List.range (-lower).toNat).map fun (k : Nat) => d.digitAt (-(k : Int) - 1 - shift)

/-- The number times a power of ten, where zeros that it does not need are kept only where the
digits did not reach before. -/
def scaled (d : Decimal) (shift first last : Int) : Decimal :=
  let (upper, lower) :=
    if 0 < shift then (d.upper + shift, min 0 (d.lower + shift))
    else if shift < 0 then (max 0 (d.upper + shift), d.lower + shift)
    else (d.upper, d.lower)
  let upper := if 0 < first + shift then first + shift else upper
  let lower := if last + shift < 0 then last + shift else lower
  d.shown shift upper lower

/-- The number times a power of ten, if its digits stay in range. Zero stays as it is written. -/
def scale? (d : Decimal) (shift : Int) : Option Decimal :=
  match d.significantPowers? with
  | .none => some d
  | some (first, last) =>
    if isRange (d.upper + shift) (d.lower + shift) then some (d.scaled shift first last) else .none

/-- The exponent after the letter `e`: digits with a minus in front of them or not. -/
def readExponent? : List Char → Option Int
  | [] => .none
  | e :: cs =>
    if e = 'e' || e = 'E' then
      match cs with
      | '-' :: ds => if Numeral.isDigits ds then some (-(Numeral.value ds : Int)) else .none
      | ds => if Numeral.isDigits ds then some (Numeral.value ds : Int) else .none
    else .none

def readSign : List Char → Sign × List Char
  | '+' :: cs => (.plus, cs)
  | '-' :: cs => (.minus, cs)
  | cs => (.none, cs)

/-- A number of the given digits, if they are in range. -/
def ofDigits? (sign : Sign) (whole fraction : List Char) : Option Decimal :=
  let d : Decimal := ⟨sign, if whole.isEmpty then ['0'] else whole, fraction⟩
  if isRange d.upper d.lower then some d else .none

/-- The number that a text is. A point ends no number, but digits need not follow it in front of an
exponent, and digits need not stand before it at all. -/
def read? (text : List Char) : Option Decimal :=
  let (sign, cs) := readSign text
  let whole := cs.takeWhile Char.isDigit
  let (fraction, rest) := Numeral.splitFraction (cs.dropWhile Char.isDigit)
  if rest.isEmpty then
    if cs.getLast?.any Char.isDigit then ofDigits? sign whole fraction else .none
  else if rest.length = cs.length then .none
  else do
    let shift ← readExponent? rest
    let d ← ofDigits? sign whole fraction
    d.scale? shift

end Decimal
end WikiMessage.Number
