import WikiMessage.Numeral.Double.Shortest

/-!
# Values

What a message is given as parameters and what its parts evaluate to. A value becomes text only
where it is joined to other text.
-/

namespace WikiMessage

open Numeral

inductive Value
  | empty
  | number (n : Int)
  | float (x : Double)
  | string (s : String)
  deriving DecidableEq

namespace Value

instance : Inhabited Value := ⟨empty⟩

def toText : Value → String
  | empty => ""
  | number n => signedText n
  | float x => x.toText
  | string s => s

/-- Whether there is nothing to work on: no value, or the empty text. -/
def isEmpty : Value → Bool
  | empty => true
  | string s => s.isEmpty
  | _ => false

def asNumber? : Value → Option Int
  | number n => some n
  | _ => none

/-- The value as a double-precision number; integers are rounded to one. -/
def asFloat? : Value → Option Double
  | float x => some x
  | number n => some (.ofInt n)
  | _ => none

def asString? : Value → Option String
  | string s => some s
  | _ => none

/-- A natural number as a value; one too large for a signed number of 64 bits becomes a float. -/
def ofNat (n : Nat) : Value :=
  if n < twoTo 63 then number n else float (.ofNat n)

/-- A value or none; none is the empty value. -/
def ofOption (v : Option Value) : Value := v.getD empty

/-- Several values joined to one text. -/
def joinText (values : List Value) : String := String.join (values.map toText)

@[simp] theorem toText_empty : empty.toText = "" := rfl

@[simp] theorem toText_string (s : String) : (string s).toText = s := rfl

end Value
end WikiMessage
