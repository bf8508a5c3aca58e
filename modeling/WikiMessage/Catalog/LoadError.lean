import WikiMessage.Catalog.Files
import WikiMessage.Json.Basic

/-!
# Why something could not be loaded

What is wrong with a text that is no JSON is said in the words of the reader of JSON, which come
from elsewhere.
-/

namespace WikiMessage.Catalog

/-- A text that was not read. -/
inductive JsonFault
  /-- The text is no JSON. -/
  | value (text : String)
  /-- The text is no JSON, or another one than an object with a list of texts for each name. -/
  | table (text : String)
  deriving DecidableEq, Repr

/-- The words for each fault. -/
abbrev FaultWording : Type := JsonFault → String

inductive LoadError
  | unreadable (path : String) (cause : FileError)
  /-- The text, which may have come from a file, is no JSON of the expected form. -/
  | invalidJson (path : Option String) (fault : JsonFault)
  | notAnObject (found : Json)
  | sectionNotAnObject (locale : String) (found : Json)
  | messageNotText (key locale : String) (found : Json)
  | invalidLocale (locale : String)

namespace LoadError

def invalidSource (reason : String) : String := "invalid message source: " ++ reason

def message (wording : FaultWording) : LoadError → String
  | unreadable path cause => "failed to read '" ++ path ++ "': " ++ cause.message
  | invalidJson none fault => "invalid JSON: " ++ wording fault
  | invalidJson (some path) fault => "invalid JSON in '" ++ path ++ "': " ++ wording fault
  | notAnObject found => invalidSource ("expected a JSON object, found " ++ found.kindName)
  | sectionNotAnObject locale found =>
    invalidSource
      ("messages for locale '" ++ locale ++ "' must be an object, found " ++ found.kindName)
  | messageNotText key locale found =>
    invalidSource
      ("message '" ++ key ++ "' for locale '" ++ locale ++ "' must be a string, found " ++
        found.kindName)
  | invalidLocale locale => "invalid locale tag '" ++ locale ++ "'"

end LoadError
end WikiMessage.Catalog
