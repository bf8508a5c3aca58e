import WikiMessage.Catalog.Source
import WikiMessage.Json.Print
import WikiMessage.Locale.Fallback.Builtin
import WikiMessage.Report.Outcome
import WikiMessage.Report.Table

/-! # Printing a fallback chain -/

namespace WikiMessage.Report

open Catalog

structure FallbacksOptions where
  locale : String
  final : String
  /-- A file with a table in place of the built-in one. -/
  table : Option String
  json : Bool

def chainTable (chain : List String) : String :=
  table ["#", "Locale"] (chain.mapIdx fun k tag => [Numeral.text k, tag])

def showChain (json : Bool) (chain : List String) : Outcome :=
  let output := if json then Json.print (.array (chain.map .string)) else chainTable chain
  ⟨success, line output, []⟩

def chosenTable (files : Files) : Option String → Except CommandError Locale.FallbackTable
  | none => .ok .builtin
  | some path =>
    match readTableFile files path with
    | .ok table => .ok table
    | .error e => .error (.load e)

def fallbacks (files : Files) (o : FallbacksOptions) : Except CommandError Outcome :=
  match chosenTable files o.table with
  | .ok table => .ok (showChain o.json (table.chain o.final o.locale))
  | .error e => .error e

end WikiMessage.Report
