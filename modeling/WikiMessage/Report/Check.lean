import WikiMessage.Catalog.Source
import WikiMessage.Catalog.Store
import WikiMessage.Json.Print
import WikiMessage.Markup.Grammar
import WikiMessage.Report.Outcome

/-!
# Checking catalogs

Every message of every file is parsed. A failure is a file that cannot be loaded or a message that
cannot be parsed.
-/

namespace WikiMessage.Report

open Catalog Markup

structure CheckOptions where
  files : List String
  links : Bool
  json : Bool

inductive Failure
  | file (path : String) (error : LoadError)
  | message (path locale key : String) (error : ParseError)

namespace Failure

def toJson (wording : FaultWording) : Failure → Json
  | file path error =>
    .object [("file", .string path), ("message", .string (error.message wording))]
  | message path locale key error =>
    .object
      [("file", .string path), ("locale", .string locale), ("key", .string key),
        ("offset", .integer error.offset), ("message", .string error.reason)]

def notice (wording : FaultWording) : Failure → Notice
  | file path error =>
    .line (line (red "error:" ++ " " ++ path ++ ": " ++ error.message wording))
  | message path locale key error =>
    .diagnostic (.ofError (path ++ " [" ++ locale ++ "]") key error)

end Failure

/-- The catalogs of a file, whose name is the locale of the messages that are in no section. -/
def loadCatalog (files : Files) (path : String) : Except LoadError Store :=
  match readJsonFile files path with
  | .error e => .error e
  | .ok source =>
    match Store.empty.load source (some ((stem? path).getD "en")) with
    | (store, .ok _) => .ok store
    | (_, .error e) => .error e

/-- The messages of a store by locale and key, in order. -/
def messagesOf (store : Store) : List (String × String × String) :=
  store.locales.flatMap fun locale =>
    (store.keys locale).filterMap fun key =>
      (store.get? key locale).map fun template => (locale, key, template)

/-- The messages that were parsed, and those of them that failed and the files that did. -/
structure CheckResult where
  checked : Nat
  failures : List Failure

def CheckResult.add (r s : CheckResult) : CheckResult :=
  ⟨r.checked + s.checked, r.failures ++ s.failures⟩

def checkStore (links : Bool) (path : String) (store : Store) : CheckResult where
  checked := (messagesOf store).length
  failures := (messagesOf store).filterMap fun (locale, key, template) =>
    match parse links template with
    | .ok _ => none
    | .error e => some (.message path locale key e)

def checkFile (files : Files) (links : Bool) (path : String) : CheckResult :=
  match loadCatalog files path with
  | .ok store => checkStore links path store
  | .error e => ⟨0, [.file path e]⟩

def checkFiles (files : Files) (links : Bool) (paths : List String) : CheckResult :=
  (paths.map (checkFile files links)).foldr CheckResult.add ⟨0, []⟩

def summary (r : CheckResult) : String :=
  if r.failures.isEmpty then green "✓" ++ " " ++ Numeral.text r.checked ++ " messages OK"
  else
    red "✗" ++ " " ++ Numeral.text r.failures.length ++ " of " ++ Numeral.text r.checked ++
      " messages failed"

def CheckResult.toJson (wording : FaultWording) (r : CheckResult) : Json :=
  .object
    [("checked", .integer r.checked),
      ("failures", .array (r.failures.map (Failure.toJson wording)))]

def check (wording : FaultWording) (files : Files) (o : CheckOptions) : Outcome :=
  let r := checkFiles files o.links o.files
  let code := if r.failures.isEmpty then success else badData
  if o.json then ⟨code, line (r.toJson wording).print, []⟩
  else if r.failures.isEmpty then ⟨code, line (summary r), []⟩
  else ⟨code, "", r.failures.map (Failure.notice wording) ++ [.line (line (summary r))]⟩

end WikiMessage.Report
