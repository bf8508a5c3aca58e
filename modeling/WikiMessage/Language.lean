import WikiMessage.Inflection.Language
import WikiMessage.Locale.Fallback.Builtin
import WikiMessage.Number.Format
import WikiMessage.Plural.RuleSet
import WikiMessage.Value

/-!
# Languages

A language is a normal tag and the tags to try for what it has no data of its own for. It selects
plural and gender forms, inflects words, and formats numbers. How numbers are sorted and written is
not known here: plural rules and symbols come from elsewhere.
-/

namespace WikiMessage

open Numeral

/-- What languages do with numbers. -/
structure LanguageData where
  symbols : Number.SymbolSource
  rules : Plural.RuleSource

structure Language where
  tag : String
  /-- The tags to try for number formats, in order. -/
  fallbacks : List String
  deriving DecidableEq, Repr

namespace Language

/-- The language of a tag with the fallbacks that are built in. -/
def ofTag (tag : String) : Language :=
  ⟨Locale.normalize tag, Locale.builtinChain (Locale.normalize tag)⟩

def withFallbacks (tag : String) (fallbacks : List String) : Language :=
  ⟨Locale.normalize tag, fallbacks⟩

def toLatin (l : Language) (text : String) : String := Number.toLatin l.tag text

/-- A count as plural rules read it, in digits of ASCII. -/
def countText (l : Language) : Value → String
  | .string s => l.toLatin (Text.trim s)
  | v => v.toText

/-- The number and the text of a form written `number=text`. -/
def explicitForm? (form : String) : Option (Double × String) :=
  match Text.cutAt? '=' form.toList with
  | some (ds, text) =>
    if isDigits ds then (Double.read? ds).map fun x => (x, String.ofList text) else none
  | none => none

/-- The text of the first explicit form whose number is the count's. -/
def explicitMatch? (forms : List String) (number : String) : Option String := do
  let count ← Double.read? number.toList
  let form ← (forms.filterMap explicitForm?).find? fun form => count.same form.1
  some form.2

/-- The forms that are taken by their place. -/
def positionalForms (forms : List String) : List String :=
  forms.filter fun form => (explicitForm? form).isNone

/-- The form in the place of the number's category. The last form stands for all places after it. -/
def positionalMatch (source : Plural.RuleSource) (tag : String) (forms : List String)
    (number : String) : String :=
  let positional := positionalForms forms
  positional[min (Plural.formIndexWith source tag number) (positional.length - 1)]?.getD ""

/-- The form of a count: an explicit form for its number, or else the form in the place of its
category. -/
def pluralWith (source : Plural.RuleSource) (l : Language) (count : Value) (forms : List String) :
    String :=
  let number := l.countText count
  match explicitMatch? forms number with
  | some text => text
  | none => positionalMatch source l.tag forms number

/-- The first form for `male`, the second for `female`, and otherwise the third of exactly three
forms, or else the first. A missing form is replaced by the last. -/
def gender (gender : String) (forms : List String) : String :=
  let index :=
    match gender with
    | "male" => 0
    | "female" => 1
    | _ => if forms.length = 3 then 2 else 0
  forms[index]?.getD (forms.getLastD "")

def inflect (l : Language) (word form : String) : String := Inflection.inflect l.tag word form

/-- A number in the format of the language; what is no number is left as it is. -/
def formatNumberWith (source : Number.SymbolSource) (l : Language) (v : Value) : Value :=
  match Number.formatWith? source (l.countText v) l.fallbacks with
  | some text => .string text
  | none => v

/-- A magnitude from which on whole numbers are left as floats. -/
def wholeBound : Nat := 9 * tenTo 15

/-- A whole number below the bound is an integer value, and another number a float. -/
def numberValue (x : Double) : Value :=
  match x.toInt? with
  | some n => if n.natAbs < wholeBound then .number n else .float x
  | none => .float x

/-- The number that a text in the format of the language stands for; what is no such text is left
as it is. -/
def parseNumberWith (source : Number.SymbolSource) (l : Language) : Value → Value
  | .string s =>
    match Number.parseWith? source s l.tag with
    | some x => numberValue x
    | none => .string s
  | v => v

end Language
end WikiMessage
