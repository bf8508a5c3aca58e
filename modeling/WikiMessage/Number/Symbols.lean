import WikiMessage.Number.Decimal

/-!
# How languages write numbers

The digits, separators and signs of a language, and how it groups the digits before the point.
-/

namespace WikiMessage.Number

structure Symbols where
  /-- The ten digits from zero to nine. -/
  digits : String
  group : Char
  point : Char
  minus : String
  plus : String
  /-- The size of the group before the point. -/
  primary : Nat
  /-- The size of the groups before that one. -/
  secondary : Nat
  /-- The least number of digits in front of the first separator. -/
  minimum : Nat
  deriving DecidableEq, Repr

namespace Symbols

def digit (s : Symbols) (c : Char) : Char := s.digits.toList[c.toNat - '0'.toNat]?.getD c

/-- Whether a separator follows the digit of a power, where `upper` is the power of the first digit
of the number. A primary size of zero means no groups, a secondary one that all groups have the
primary size. -/
def separates (s : Symbols) (upper power : Nat) : Bool :=
  let secondary := if s.secondary = 0 then s.primary else s.secondary
  0 < s.primary && s.primary ≤ power && (power - s.primary) % secondary = 0 &&
    s.primary + s.minimum ≤ upper + 1

/-- The digits before the point, with separators; the list is as long as the number of them. -/
def grouped (s : Symbols) (upper : Nat) : List Char → List Char
  | [] => []
  | c :: cs =>
    if s.separates upper cs.length then s.digit c :: s.group :: grouped s upper cs
    else s.digit c :: grouped s upper cs

def signText (s : Symbols) : Sign → String
  | .none => ""
  | .plus => s.plus
  | .minus => s.minus

def format (s : Symbols) (d : Decimal) : List Char :=
  (s.signText d.sign).toList ++ s.grouped (d.whole.length - 1) d.whole ++
    if d.fraction.isEmpty then [] else s.point :: d.fraction.map s.digit

end Symbols
end WikiMessage.Number
