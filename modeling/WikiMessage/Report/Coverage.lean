import WikiMessage.Json.Print
import WikiMessage.Localizer
import WikiMessage.Numeral.Double.Fixed
import WikiMessage.Report.Outcome
import WikiMessage.Report.Table

/-!
# Coverage of translations

How many of the keys of a source language each other language has, and which it lacks.
-/

namespace WikiMessage.Report

open Catalog

structure CoverageOptions where
  messages : String
  source : String
  /-- The languages to report on; without any, all other languages with a catalog. -/
  languages : List String
  /-- Whether a missing key is a failure. -/
  strict : Bool
  json : Bool

/-- What one language has of the source's keys. -/
structure Coverage where
  language : String
  translated : Nat
  missing : List String
  deriving DecidableEq, Repr

def coverageOf (store : Store) (source language : String) : Coverage :=
  let missing := (store.keys source).filter fun key => !(store.keys language).contains key
  ⟨language, (store.keys source).length - missing.length, missing⟩

def reportedLanguages (store : Store) (source : String) (chosen : List String) : List String :=
  if chosen.isEmpty then store.locales.filter (· ≠ source) else chosen.map Locale.normalize

def coverageRows (store : Store) (source : String) (chosen : List String) : List Coverage :=
  (reportedLanguages store source chosen).map (coverageOf store source)

/-- A share in percent; there is nothing to lack in an empty whole. -/
def percent (part total : Nat) : Numeral.Double :=
  if total = 0 then .ofNat 100 else .ofRatio false (part * 100) total

def coverageTable (total : Nat) (rows : List Coverage) : String :=
  table ["Language", "Coverage", "Percent", "Missing"]
    (rows.map fun c =>
      [c.language, Numeral.text c.translated ++ "/" ++ Numeral.text total,
        (percent c.translated total).fixedText 1 ++ "%", Numeral.text c.missing.length])

def missingText (c : Coverage) : String :=
  if c.missing.isEmpty then ""
  else
    line ("\nMissing in " ++ c.language ++ ":") ++
      String.join (c.missing.map fun key => line ("  - " ++ key))

def Coverage.toJson (total : Nat) (c : Coverage) : Json :=
  .object
    [("language", .string c.language), ("translated", .integer c.translated),
      ("total", .integer total), ("missing", .array (c.missing.map .string))]

def showCoverage (o : CoverageOptions) (total : Nat) (rows : List Coverage) : Outcome :=
  let incomplete := rows.any fun c => !c.missing.isEmpty
  let output :=
    if o.json then line (Json.print (.array (rows.map (Coverage.toJson total))))
    else line (coverageTable total rows) ++ String.join (rows.map missingText)
  ⟨if o.strict && incomplete then badData else success, output, []⟩

def coverage (data : LanguageData) (files : Files) (o : CoverageOptions) :
    Except CommandError Outcome :=
  let l := Localizer.create data Locale.defaultFinal Locale.defaultFinal false none
  match l.loadDirectory files o.messages with
  | (_, .error e) => .error (.load e)
  | (l, .ok _) =>
    let source := Locale.normalize o.source
    if l.store.hasLocale source then
      .ok (showCoverage o (l.store.keys source).length (coverageRows l.store source o.languages))
    else .error (.noSource o.source o.messages)

end WikiMessage.Report
