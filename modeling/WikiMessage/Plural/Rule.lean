import WikiMessage.Plural.Operands

/-!
# Plural rules

A language sorts numbers into up to six categories. The rule of a category is an alternative of
conjunctions of relations, each of which compares an operand, or its remainder, with ranges.
-/

namespace WikiMessage.Plural

inductive Category
  | zero
  | one
  | two
  | few
  | many
  | other
  deriving DecidableEq, Repr

namespace Category

/-- All categories, in the order in which the forms of a message are written. -/
def all : List Category := [zero, one, two, few, many, other]

def name : Category → String
  | zero => "zero"
  | one => "one"
  | two => "two"
  | few => "few"
  | many => "many"
  | other => "other"

end Category

/-- The operands by the letters that rules are written with. -/
inductive Operand
  /-- The number itself. It has a value only if it is written without a fraction. -/
  | n
  | i
  | v
  | w
  | f
  | t
  | e
  deriving DecidableEq, Repr

def Operand.value? (o : Operands) : Operand → Option Nat
  | n => if o.significantPlaces = 0 then some o.integer else none
  | i => some o.integer
  | v => some o.places
  | w => some o.significantPlaces
  | f => some o.fraction
  | t => some o.significantFraction
  | e => some o.exponent

structure Relation where
  operand : Operand
  modulus : Option Nat
  /-- Whether the operand is to be in the ranges or outside them. -/
  inside : Bool
  ranges : List (Nat × Nat)
  deriving DecidableEq, Repr

namespace Relation

/-- An operand without a value is outside all ranges. -/
def holds (o : Operands) (r : Relation) : Bool :=
  match r.operand.value? o with
  | none => !r.inside
  | some value =>
    let value := match r.modulus with
      | some m => value % m
      | none => value
    (r.ranges.any fun (low, high) => low ≤ value && value ≤ high) == r.inside

end Relation

/-- `x is [(a, b)]` says that the operand lies between `a` and `b`. -/
def Operand.is (x : Operand) (ranges : List (Nat × Nat)) : Relation := ⟨x, none, true, ranges⟩

def Operand.isNot (x : Operand) (ranges : List (Nat × Nat)) : Relation := ⟨x, none, false, ranges⟩

/-- `x.rem m [(a, b)]` says that the remainder by `m` lies between `a` and `b`. -/
def Operand.rem (x : Operand) (m : Nat) (ranges : List (Nat × Nat)) : Relation :=
  ⟨x, some m, true, ranges⟩

def Operand.remNot (x : Operand) (m : Nat) (ranges : List (Nat × Nat)) : Relation :=
  ⟨x, some m, false, ranges⟩

/-- Alternatives of conjunctions. -/
abbrev Condition := List (List Relation)

def Condition.holds (o : Operands) (c : Condition) : Bool := c.any fun rs => rs.all (·.holds o)

/-- The conditions of the categories that a language has, in their order; `other` needs none. -/
abbrev Rules := List (Category × Condition)

namespace Rules

/-- The first category whose condition holds. -/
def category (rules : Rules) (o : Operands) : Category :=
  match rules.find? fun (_, c) => c.holds o with
  | some (category, _) => category
  | none => .other

/-- The categories of the language in the order of `Category.all`. -/
def categories (rules : Rules) : List Category :=
  Category.all.filter fun c => c = .other || rules.any fun r => r.1 = c

end Rules
end WikiMessage.Plural
