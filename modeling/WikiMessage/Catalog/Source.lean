import WikiMessage.Catalog.LoadError
import WikiMessage.Json.Read
import WikiMessage.Locale.Fallback

/-!
# JSON from texts and files

Sources of messages are any JSON. A fallback table is an object with a list of tags for each tag.
-/

namespace WikiMessage.Catalog

open WikiMessage.Locale

def readJson (text : String) (path : Option String) : Except LoadError Json :=
  match Json.read? text with
  | some value => .ok value
  | none => .error (.invalidJson path (.value text))

def readFile (files : Files) (path : String) : Except LoadError String :=
  match files.read path with
  | .ok text => .ok text
  | .error cause => .error (.unreadable path cause)

def readJsonFile (files : Files) (path : String) : Except LoadError Json :=
  match readFile files path with
  | .ok text => readJson text (some path)
  | .error e => .error e

/-- The lists of a table, in the order in which they are written. -/
def tableEntries? : Json → Option (List (String × List String))
  | .object members =>
    members.mapM fun (tag, value) =>
      match value with
      | .array items => (Json.asStrings? items).map fun others => (tag, others)
      | _ => none
  | _ => none

/-- The entries that no later entry of the same name replaces. -/
def lastEntries {α : Type} : List (String × α) → List (String × α)
  | [] => []
  | e :: es => if es.any (·.1 = e.1) then lastEntries es else e :: lastEntries es

def readTable (text : String) (path : Option String) : Except LoadError FallbackTable :=
  match (Json.read? text).bind tableEntries? with
  | some entries => .ok (.ofEntries (lastEntries entries))
  | none => .error (.invalidJson path (.table text))

def readTableFile (files : Files) (path : String) : Except LoadError FallbackTable :=
  match readFile files path with
  | .ok text => readTable text (some path)
  | .error e => .error e

end WikiMessage.Catalog
