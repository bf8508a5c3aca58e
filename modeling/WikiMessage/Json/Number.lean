import WikiMessage.Json.Basic
import WikiMessage.Numeral.Double.Arithmetic
import WikiMessage.Text.Rule

/-!
# Numbers in JSON

A number is a whole number of 64 bits, or else a double. Digits are taken into a whole number of 64
bits as long as they fit, and for a double that is then scaled by a power of ten. Every step rounds,
so that the double need not be the one nearest to what is written, and there are numbers close to
the greatest double that are refused.
-/

namespace WikiMessage.Json

open WikiMessage.Numeral (Double)
open WikiMessage.Text

/-- The digits before the point: a lone zero, or digits that do not begin with one. -/
def wholeDigits : Rule (List Char)
  | [] => none
  | c :: cs =>
    if c = '0' then some (['0'], cs)
    else if c.isDigit then some (c :: cs.takeWhile Char.isDigit, cs.dropWhile Char.isDigit)
    else none

/-- The digits after the point, if there is one. -/
def fractionDigits : Rule (List Char)
  | '.' :: cs =>
    let ds := cs.takeWhile Char.isDigit
    if ds.isEmpty then none else some (ds, cs.dropWhile Char.isDigit)
  | cs => some ([], cs)

/-- The exponent, if there is one. -/
def exponentPart : Rule (Option Int)
  | [] => some (none, [])
  | e :: cs =>
    if e = 'e' || e = 'E' then
      let negative := cs.head? = some '-'
      let body := if negative || cs.head? = some '+' then cs.tail else cs
      let ds := body.takeWhile Char.isDigit
      if ds.isEmpty then none
      else
        let n : Int := Numeral.value ds
        some (some (if negative then -n else n), body.dropWhile Char.isDigit)
    else some (none, e :: cs)

/-- The number that `n` is with more digits after its own, and the digits from the first one on that
would bring it past 64 bits. -/
def appendDigits (n : Nat) : List Char → Nat × List Char
  | [] => (n, [])
  | d :: ds =>
    let m := n * 10 + Numeral.value [d]
    if m < Numeral.unsignedBound then appendDigits m ds else (n, d :: ds)

/-- The greatest power of ten that is not beyond the doubles. -/
def greatestPower : Nat := 308

def powerOfTen (k : Nat) : Double := .ofRatio false (Numeral.tenTo k) 1

/-- The product with a power of ten, if it is finite. -/
def scaleUp? (x : Double) (k : Nat) : Option Double :=
  if k ≤ greatestPower then (some (x.mul (powerOfTen k))).filter (·.isFinite)
  else if x.isZero then some x else none

/-- The quotient of a number of 64 bits by a power of ten. Divided by the greatest power twice,
such a number is closer to zero than to any other double. -/
def scaleDown (x : Double) (k : Nat) : Double :=
  if k ≤ greatestPower then x.div (powerOfTen k)
  else if k ≤ 2 * greatestPower then
    (x.div (powerOfTen greatestPower)).div (powerOfTen (k - greatestPower))
  else .zero false

def scale? (n : Nat) (exponent : Int) : Option Double :=
  let x := Double.ofNat n
  if 0 ≤ exponent then scaleUp? x exponent.toNat else some (scaleDown x (-exponent).toNat)

/-- Whether the number is one of 64 bits: without a sign, or else less than zero. -/
def isInteger (negative : Bool) (n : Nat) : Bool :=
  !negative || (0 < n && n ≤ Numeral.twoTo 63)

def readNumber : Rule Json := fun cs => do
  let negative := cs.head? = some '-'
  let (whole, cs) ← wholeDigits (if negative then cs.tail else cs)
  let (fraction, cs) ← fractionDigits cs
  let (exponent, cs) ← exponentPart cs
  let (n, more) := appendDigits 0 whole
  if fraction.isEmpty && exponent.isNone && more.isEmpty && isInteger negative n then
    some (.integer (if negative then -(n : Int) else n), cs)
  else
    let (n, left) := appendDigits n fraction
    let x ← scale? n (exponent.getD 0 + more.length - (fraction.length - left.length : Nat))
    some (.float (if negative then x.neg else x), cs)

end WikiMessage.Json
