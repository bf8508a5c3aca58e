import WikiMessage.Numeral.Digits
import WikiMessage.Text.Affix
import WikiMessage.Text.Blank

/-!
# What a plural rule knows of a number

The plural of a number depends on how it is written: `1` and `1.0` may take different forms. The
operands are the integer part, the digits of the fraction with and without trailing zeros, and a
compact exponent, which is not applied to the others.
-/

namespace WikiMessage.Plural

open WikiMessage.Text

structure Operands where
  integer : Nat
  /-- The number of fraction digits. -/
  places : Nat
  /-- The number of fraction digits without trailing zeros. -/
  significantPlaces : Nat
  fraction : Nat
  significantFraction : Nat
  exponent : Nat
  deriving DecidableEq, Repr

namespace Operands

/-- The digits and the exponent after the letter `e`, which is zero without the letter. -/
def readExponent? (cs : List Char) : Option (List Char × Nat) :=
  match cutAt? 'e' cs with
  | none => some (cs, 0)
  | some (ds, e) => (Numeral.readUnsigned? e).map fun n => (ds, n)

def readFraction? (ds : List Char) : Option (Nat × Nat × Nat × Nat) := do
  let significant := dropWhileEnd (· = '0') ds
  let fraction ← Numeral.readUnsigned? ds
  let shown ←
    if significant.isEmpty || significant.length = ds.length then some fraction
    else Numeral.readUnsigned? significant
  some (ds.length, significant.length, fraction, shown)

/-- The operands of a number without its sign. -/
def readMagnitude? (cs : List Char) : Option Operands :=
  match cutAt? '.' cs with
  | some (whole, rest) => do
    let (ds, exponent) ← readExponent? rest
    let integer ← Numeral.readUnsigned? whole
    let (places, significantPlaces, fraction, significantFraction) ← readFraction? ds
    some ⟨integer, places, significantPlaces, fraction, significantFraction, exponent⟩
  | none => do
    let (whole, exponent) ← readExponent? cs
    let integer ← Numeral.readUnsigned? whole
    some ⟨integer, 0, 0, 0, 0, exponent⟩

/-- The operands of a number with a minus in front of it or not, and blanks around it. -/
def read? (text : String) : Option Operands :=
  let cs := trimChars text.toList
  readMagnitude? ((dropStart? ['-'] cs).getD cs)

end Operands
end WikiMessage.Plural
