import WikiMessage.Inflection.Ending

/-!
# Declensions by tables of endings

In Armenian, Russian and Ukrainian the first listed ending that a word has is replaced. In Latin the
rows are steps: each is applied to what the rows before it made of the word.
-/

namespace WikiMessage.Inflection

def armenian : Rule := fun word form =>
  match form with
  | "genitive" =>
    (replaceFirst? word [("ա", "այի"), ("ո", "ոյի"), ("գիրք", "գրքի")]).getD (word ++ "ի".toList)
  | _ => word

def russianEndings : String → List (String × String)
  | "genitive" =>
    [("ь", "я"), ("ия", "ии"), ("ка", "ки"), ("ти", "тей"), ("ды", "дов"), ("ник", "ника")]
  | _ => []

def russian : Rule := fun word form => (replaceFirst? word (russianEndings form)).getD word

def ukrainianEndings : String → List (String × String)
  | "genitive" =>
    [("ь", "я"), ("ія", "ії"), ("ка", "ки"), ("ти", "тей"), ("ды", "дов"), ("ник", "ника")]
  | "accusative" => [("ія", "ію")]
  | _ => []

def ukrainian : Rule := fun word form => (replaceFirst? word (ukrainianEndings form)).getD word

/-- A row of the Latin tables: endings and what takes the place of the first that a word has. -/
structure LatinStep where
  endings : List String
  replacement : String

namespace LatinStep

def apply (word : List Char) (step : LatinStep) : List Char :=
  (step.endings.findSome? fun e => replaceEndAnyCase? word e step.replacement).getD word

end LatinStep

def latinSteps : String → List LatinStep
  | "genitive" =>
    [⟨["um", "us"], "i"⟩, ⟨["ommunia"], "ommunium"⟩, ⟨["a"], "ae"⟩, ⟨["libri"], "librorum"⟩,
      ⟨["nuntii"], "nuntiorum"⟩, ⟨["tio"], "tionis"⟩, ⟨["ns"], "ntis"⟩, ⟨["as"], "atis"⟩,
      ⟨["es"], "ei"⟩]
  | "accusative" =>
    [⟨["um", "us"], "um"⟩, ⟨["a"], "am"⟩, ⟨["ommunia"], "ommunia"⟩, ⟨["libri"], "libros"⟩,
      ⟨["nuntii"], "nuntios"⟩, ⟨["tio"], "tionem"⟩, ⟨["ns"], "ntem"⟩, ⟨["as"], "atem"⟩,
      ⟨["es"], "em"⟩]
  | "ablative" =>
    [⟨["um", "us"], "o"⟩, ⟨["ommunia"], "ommunibus"⟩, ⟨["a"], "a"⟩, ⟨["libri"], "libris"⟩,
      ⟨["nuntii"], "nuntiis"⟩, ⟨["tio"], "tione"⟩, ⟨["ns"], "nte"⟩, ⟨["as"], "ate"⟩, ⟨["es"], "e"⟩]
  | _ => []

def latin : Rule := fun word form => (latinSteps form).foldl LatinStep.apply word

end WikiMessage.Inflection
