import WikiMessage.Json.Print
import WikiMessage.Localizer
import WikiMessage.Markup.Tree
import WikiMessage.Report.Outcome

/-! # Rendering one template or message -/

namespace WikiMessage.Report

open Catalog Markup

structure EvaluateOptions where
  locale : String
  template : Option String
  key : Option String
  /-- A directory of catalogs to load first. -/
  messages : Option String
  params : List String
  links : Bool
  /-- Print the tree of the template instead of rendering it. -/
  tree : Bool
  json : Bool

/-- A raw parameter as a value: an integer if it reads as one, and a text otherwise. -/
def paramValue (raw : String) : Value :=
  match Numeral.readSigned? raw.toList with
  | some n => .number n
  | none => .string raw

/-- The template to render. -/
def chooseTemplate (o : EvaluateOptions) (l : Localizer) : Except CommandError String :=
  match o.key, o.template with
  | some key, _ =>
    match l.message? key with
    | some template => .ok template
    | none => .error (.noMessage key o.locale l.fallbackLocales)
  | none, some template => .ok template
  | none, none => .error .nothingToEvaluate

def diagnose (o : EvaluateOptions) (e : ParseError) : Notice :=
  .diagnostic (.ofError "eval" (o.key.getD "template") e)

def showTree (o : EvaluateOptions) (template : String) : Outcome :=
  match parse o.links template with
  | .ok node => ⟨success, line node.toJson.print, []⟩
  | .error e => ⟨badData, "", [diagnose o e]⟩

def errorNotice (o : EvaluateOptions) (e : RenderError) : Notice :=
  if o.json then .line (line (Json.print (.object [("error", .string e.message)])))
  else
    match e with
    | .unreadable e => diagnose o e
    | e => .line (line ("Evaluation error: " ++ e.message))

def showResult (o : EvaluateOptions) (result : Except RenderError String) : Outcome :=
  match result with
  | .ok text =>
    let output :=
      if o.json then Json.print (.object [("locale", .string o.locale), ("result", .string text)])
      else text
    ⟨success, line output, []⟩
  | .error e => ⟨badData, "", [errorNotice o e]⟩

def evaluate (data : LanguageData) (files : Files) (o : EvaluateOptions) :
    Except CommandError Outcome := do
  let l := Localizer.create data o.locale Locale.defaultFinal o.links none
  let l ← match o.messages with
    | none => .ok l
    | some directory =>
      match l.loadDirectory files directory with
      | (l, .ok _) => .ok l
      | (_, .error e) => .error (.load e)
  let template ← chooseTemplate o l
  if o.tree then .ok (showTree o template)
  else .ok (showResult o (l.render template (o.params.map paramValue)).2)

end WikiMessage.Report
