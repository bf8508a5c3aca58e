import WikiMessage.Report.Arguments
import WikiMessage.Report.Check
import WikiMessage.Report.Coverage
import WikiMessage.Report.Evaluate
import WikiMessage.Report.Fallbacks

/-!
# Commands

The commands that a command line can give, how they are read from its words, and which files and
directories they look at.
-/

namespace WikiMessage.Report

open Catalog

inductive Command
  | check (o : CheckOptions)
  | coverage (o : CoverageOptions)
  | evaluate (o : EvaluateOptions)
  | fallbacks (o : FallbacksOptions)

namespace Command

def readCheck (words : List String) : Except UsageError CheckOptions := do
  let a ← Arguments.read ⟨[], ["--wikilinks", "--json"]⟩ words
  if a.operands.isEmpty then .error (.missing "a file")
  else .ok ⟨a.operands, a.has "--wikilinks", a.has "--json"⟩

/-- Languages may be given one by one or with commas between them. -/
def splitLanguages (values : List String) : List String :=
  values.flatMap fun v => (v.toList.splitOnP (· = ',')).map String.ofList

def readCoverage (words : List String) : Except UsageError CoverageOptions := do
  let a ← Arguments.read ⟨["--messages", "--source", "--lang"], ["--strict", "--json"]⟩ words
  a.noOperands
  let source ← a.one? "--source"
  match ← a.one? "--messages" with
  | none => .error (.missing "'--messages'")
  | some messages =>
    .ok ⟨messages, source.getD "en", splitLanguages (a.all ["--lang"]), a.has "--strict",
      a.has "--json"⟩

def readEvaluate (words : List String) : Except UsageError EvaluateOptions := do
  let a ← Arguments.read
    ⟨["--locale", "--template", "--key", "--messages", "--param", "-p"],
      ["--wikilinks", "--ast", "--json"]⟩ words
  a.noOperands
  let locale ← a.one? "--locale"
  let template ← a.one? "--template"
  let key ← a.one? "--key"
  let messages ← a.one? "--messages"
  if template.isSome && key.isSome then .error (.conflict "--template" "--key")
  else if template.isNone && key.isNone then .error (.missing "'--template' or '--key'")
  else if key.isSome && messages.isNone then .error (.requires "--key" "--messages")
  else
    .ok ⟨locale.getD "en", template, key, messages, a.all ["--param", "-p"], a.has "--wikilinks",
      a.has "--ast", a.has "--json"⟩

def readFallbacks (words : List String) : Except UsageError FallbacksOptions := do
  let a ← Arguments.read ⟨["--final-fallback", "--table"], ["--json"]⟩ words
  let final ← a.one? "--final-fallback"
  let table ← a.one? "--table"
  match a.operands with
  | [] => .error (.missing "a locale")
  | [locale] => .ok ⟨locale, final.getD Locale.defaultFinal, table, a.has "--json"⟩
  | _ :: operand :: _ => .error (.unexpected operand)

def read : List String → Except UsageError Command
  | [] => .error .noCommand
  | "check" :: words => (readCheck words).map check
  | "coverage" :: words => (readCoverage words).map coverage
  | "eval" :: words => (readEvaluate words).map evaluate
  | "fallbacks" :: words => (readFallbacks words).map fallbacks
  | name :: _ => .error (.unknownCommand name)

/-- The directories whose catalogs a command loads. -/
def directories : Command → List String
  | check _ => []
  | coverage o => [o.messages]
  | evaluate o => o.messages.toList
  | fallbacks _ => []

/-- The files that a command reads besides catalogs of directories. -/
def paths : Command → List String
  | check o => o.files
  | coverage _ => []
  | evaluate _ => []
  | fallbacks o => o.table.toList

def run (data : LanguageData) (wording : FaultWording) (files : Files) :
    Command → Except CommandError Outcome
  | check o => .ok (Report.check wording files o)
  | coverage o => Report.coverage data files o
  | evaluate o => Report.evaluate data files o
  | fallbacks o => Report.fallbacks files o

end Command
end WikiMessage.Report
