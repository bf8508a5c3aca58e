import WikiMessage.Numeral.Double

/-!
# Arithmetic of doubles

The exact result of an operation is rounded once. Both factors of a product are multiples of the
least positive number, and in a quotient that unit cancels.
-/

namespace WikiMessage.Numeral.Double

def isNegative : Double → Bool
  | nan => false
  | infinite negative => negative
  | finite negative _ => negative

def isZero : Double → Bool
  | finite _ rank => rank.val = 0
  | _ => false

def neg : Double → Double
  | nan => nan
  | infinite negative => infinite !negative
  | finite negative rank => finite (!negative) rank

/-- The product; an infinity times zero is no number. -/
def mul (x y : Double) : Double :=
  let negative := x.isNegative != y.isNegative
  match x, y with
  | finite _ a, finite _ b =>
    ofRatio negative (units a * units b) (twoTo (leastPower + leastPower))
  | nan, _ | _, nan => nan
  | _, _ => if x.isZero || y.isZero then nan else infinite negative

/-- The quotient; zero by zero and an infinity by an infinity are no numbers. -/
def div (x y : Double) : Double :=
  let negative := x.isNegative != y.isNegative
  match x, y with
  | finite _ a, finite _ b =>
    if b.val = 0 then if a.val = 0 then nan else infinite negative
    else ofRatio negative (units a) (units b)
  | nan, _ | _, nan | infinite _, infinite _ => nan
  | infinite _, finite _ _ => infinite negative
  | finite _ _, infinite _ => zero negative

protected theorem mul_comm (x y : Double) : x.mul y = y.mul x := by
  cases x <;> cases y <;>
    simp [mul, bne_comm, Bool.or_comm, Nat.mul_comm]

@[simp] protected theorem neg_neg (x : Double) : x.neg.neg = x := by cases x <;> simp [neg]

end WikiMessage.Numeral.Double
