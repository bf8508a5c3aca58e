import WikiMessage.Language
import WikiMessage.Operation.Link
import WikiMessage.Text.Direction

/-!
# Built-in operations

The operations that every message can call. A missing argument counts as empty.
-/

namespace WikiMessage.Operation

inductive Builtin
  | concat
  | plural
  | gender
  | grammar
  | bidi
  | formatNumber
  | pageLink
  | webLink
  deriving DecidableEq, Repr

namespace Builtin

def all : List Builtin := [concat, plural, gender, grammar, bidi, formatNumber, pageLink, webLink]

def name : Builtin → String
  | concat => "concat"
  | plural => "plural"
  | gender => "gender"
  | grammar => "grammar"
  | bidi => "bidi"
  | formatNumber => "formatnum"
  | pageLink => "wikilink"
  | webLink => "extlink"

/-- The operation of a name, in which case does not matter. -/
def ofName? (name : String) : Option Builtin :=
  all.find? fun b => b.name = Text.lower name

end Builtin

def argText (args : List Value) (index : Nat) : String := (args[index]?.getD .empty).toText

def plural (rules : Plural.RuleSource) (language : Language) : List Value → Value
  | [] => .string ""
  | count :: forms => .string (language.pluralWith rules count (forms.map Value.toText))

/-- An empty form or word gives the word back as it is. -/
def grammar (language : Language) (args : List Value) : Value :=
  let form := argText args 0
  let word := args[1]?.getD .empty
  if form.isEmpty || word.isEmpty then word else .string (language.inflect word.toText form)

/-- Formats a number, or reads a formatted one if the second argument is `R`. -/
def formatNumber (symbols : Number.SymbolSource) (language : Language) (args : List Value) :
    Value :=
  let number := args[0]?.getD .empty
  if argText args 1 = "R" then language.parseNumberWith symbols number
  else language.formatNumberWith symbols number

namespace Builtin

def apply (data : LanguageData) (language : Language) (args : List Value) : Builtin → Value
  | concat => .string (Value.joinText args)
  | plural => Operation.plural data.rules language args
  | gender => .string (Language.gender (argText args 0) ((args.drop 1).map Value.toText))
  | grammar => Operation.grammar language args
  | bidi => .string (Text.isolated (argText args 0))
  | formatNumber => Operation.formatNumber data.symbols language args
  | pageLink => .string (pageAnchor (argText args 0) (args[1]?.map Value.toText))
  | webLink => .string (webAnchor (argText args 0) (argText args 1))

end Builtin
end WikiMessage.Operation
