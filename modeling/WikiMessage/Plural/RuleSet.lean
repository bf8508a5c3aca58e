import WikiMessage.Plural.Rule

/-!
# The plural rules of languages

The rules of a tag come from elsewhere. The category of a number and its place among the categories
of the language follow from them.
-/

namespace WikiMessage.Plural

/-- The categories that a language has, in any order, and the category of each number. -/
structure RuleSet where
  categories : List Category
  category : Operands → Category

def Rules.ruleSet (rules : Rules) : RuleSet := ⟨rules.categories, rules.category⟩

/-- Where the rules of a tag come from. There are none for a tag that is no identifier. -/
abbrev RuleSource : Type := String → Option RuleSet

/-- The rules for a tag. Those of English take the place of missing ones. -/
def rulesFor? (source : RuleSource) (tag : String) : Option RuleSet := source tag <|> source "en"

/-- The category of a number in a language; a text that is no number is in `other`. -/
def categoryWith (source : RuleSource) (tag number : String) : Category :=
  match Operands.read? number with
  | some o => ((rulesFor? source tag).map fun rules => rules.category o).getD .other
  | none => .other

/-- The categories of a language in the order of `Category.all`. -/
def RuleSet.ordered (rules : RuleSet) : List Category :=
  Category.all.filter fun c => rules.categories.contains c

/-- The place of the number's category among the categories of the language. -/
def formIndexWith (source : RuleSource) (tag number : String) : Nat :=
  match rulesFor? source tag with
  | some rules =>
    let category :=
      match Operands.read? number with
      | some o => rules.category o
      | none => .other
    (rules.ordered.idxOf? category).getD 0
  | none => 0

end WikiMessage.Plural
