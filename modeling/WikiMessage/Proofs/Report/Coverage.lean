import WikiMessage.Proofs.Catalog.WellFormed
import WikiMessage.Proofs.Language.Data
import WikiMessage.Proofs.Localizer.Cache
import WikiMessage.Report.Coverage

/-!
# What the coverage of a catalog says

A row compares the catalogs of two languages key by key: the keys of the source are split into those
that the other language has and those that it lacks. Keys that only the other language has are in
neither part. The rows are the same however they are printed, and so is the code of the command.
-/

namespace WikiMessage

open Catalog WikiMessage.Locale

/-- Loading a directory keeps a store well formed, also when it fails. -/
theorem Localizer.wellFormed_loadDirectory (files : Files) (directory : String) {l : Localizer}
    (h : l.store.WellFormed) : (l.loadDirectory files directory).1.store.WellFormed := by
  refine loadDirectory_induction (P := fun l => l.store.WellFormed) (fun _ _ name _ _ l h => ?_) h
  unfold loadFile
  cases readJsonFile files (joinPath directory name) with
  | ok source => exact h.load source (some (splitExtension name).1)
  | error e => exact h

namespace Report

/-- What a row says about the templates that are found for a source and for a language, under any
tag of either. -/
structure IsCoverage (store : Store) (source : String) (row : Coverage) : Prop where
  normalize_language : normalize row.language = row.language
  pairwise_missing : row.missing.Pairwise (· < ·)
  mem_missing_iff {tag : String} (h : normalize tag = row.language) (key : String) :
    key ∈ row.missing ↔
      (store.get? key source).isSome = true ∧ store.get? key tag = none
  /-- In particular no more keys are missing than there are. -/
  translated_add : row.translated + row.missing.length = (store.keys source).length
  translated_eq {tag : String} (h : normalize tag = row.language) :
    row.translated = ((store.keys source).filter fun key => (store.get? key tag).isSome).length

variable {store : Store} {source language : String}

theorem contains_keys (key : String) :
    (store.keys language).contains key = (store.get? key language).isSome := by
  rw [Bool.eq_iff_iff, List.contains_iff_mem, Store.isSome_get?_iff]

theorem missing_coverageOf (store : Store) (source language : String) :
    (coverageOf store source language).missing =
      (store.keys source).filter fun key => !(store.get? key language).isSome := by
  rw [coverageOf]
  simp only [contains_keys]

/-- The keys of the source fall into the two parts. -/
theorem length_filter_add (store : Store) (source language : String) :
    ((store.keys source).filter fun key => (store.get? key language).isSome).length +
      (coverageOf store source language).missing.length = (store.keys source).length := by
  have h := List.length_eq_countP_add_countP (fun key => (store.get? key language).isSome)
    (l := store.keys source)
  rw [missing_coverageOf]
  simpa only [List.countP_eq_length_filter, decide_not, Bool.decide_eq_true] using h.symm

theorem isCoverage_coverageOf (store : Store) (source : String)
    (hn : normalize language = language) :
    IsCoverage store source (coverageOf store source language) := by
  have hl := length_filter_add store source language
  have ht : (coverageOf store source language).translated = (store.keys source).length -
    (coverageOf store source language).missing.length := rfl
  have hg {tag : String} (h : normalize tag = language) (key : String) :
      store.get? key tag = store.get? key language := by
    rw [← h, Store.get?_normalize]
  refine ⟨hn, ?_, fun h key => ?_, by omega, fun h => ?_⟩
  · rw [missing_coverageOf]
    exact (Store.pairwise_treeMap_keys _).filter _
  · rw [hg h, missing_coverageOf, List.mem_filter, ← Store.isSome_get?_iff, Bool.not_eq_true',
      Option.isSome_eq_false_iff, Option.isNone_iff_eq_none]
  · simp only [hg h]
    omega

/-- A row for the normal form of a tag is a row for the tag. -/
theorem IsCoverage.of_normalize {row : Coverage} (h : IsCoverage store (normalize source) row) :
    IsCoverage store source row := by
  refine ⟨h.normalize_language, h.pairwise_missing, fun ht key => ?_, ?_, fun ht => ?_⟩
  · rw [h.mem_missing_iff ht, Store.get?_normalize]
  · rw [h.translated_add, Store.keys_normalize]
  · rw [h.translated_eq ht, Store.keys_normalize]

theorem map_language_coverageRows (store : Store) (source : String) (chosen : List String) :
    (coverageRows store source chosen).map (·.language) =
      reportedLanguages store source chosen := by
  rw [coverageRows, List.map_map]
  exact List.map_id _

theorem normalize_of_mem_reportedLanguages (hs : store.WellFormed) {chosen : List String}
    (h : language ∈ reportedLanguages store source chosen) : normalize language = language := by
  unfold reportedLanguages at h
  split at h
  · obtain ⟨messages, hm⟩ := Store.mem_locales_iff.mp (List.mem_filter.mp h).1
    exact (hs language messages hm).isPlain.normalize_eq
  · obtain ⟨tag, -, rfl⟩ := List.mem_map.mp h
    exact normalize_normalize tag

theorem isCoverage_of_mem_coverageRows (hs : store.WellFormed) {chosen : List String}
    {row : Coverage} (h : row ∈ coverageRows store (normalize source) chosen) :
    IsCoverage store source row := by
  obtain ⟨language, hl, rfl⟩ := List.mem_map.mp h
  exact (isCoverage_coverageOf store (normalize source)
    (normalize_of_mem_reportedLanguages hs hl)).of_normalize

/-- The catalogs that the command compares. -/
def coverageCatalogs (data : LanguageData) (files : Files) (o : CoverageOptions) :
    Localizer.Loaded :=
  (Localizer.create data defaultFinal defaultFinal false none).loadDirectory files o.messages

/-- What the command shows when the directory has the source. -/
theorem coverage_eq {data : LanguageData} {files : Files} {o : CoverageOptions} {l : Localizer}
    {n : Nat} (hl : coverageCatalogs data files o = (l, .ok n))
    (hs : l.store.hasLocale o.source = true) :
    coverage data files o = .ok (showCoverage o (l.store.keys o.source).length
      (coverageRows l.store (normalize o.source) o.languages)) := by
  unfold coverageCatalogs at hl
  simp only [coverage, hl, Store.hasLocale_normalize, hs, if_true, Store.keys_normalize]

theorem code_showCoverage (o : CoverageOptions) (total : Nat) (rows : List Coverage) :
    (showCoverage o total rows).code =
      if o.strict = true ∧ ∃ row ∈ rows, row.missing ≠ [] then badData else success := by
  simp [showCoverage]

/-- For catalogs that load, with the source among them, the command shows rows that compare the
languages with the source, for the languages that were chosen or else for all others in ascending
order. Its code tells bad data exactly when it is strict and a key is missing in a row, whether it
shows the rows as a table or as JSON. -/
theorem coverage_partitions_keys {data : LanguageData} {files : Files} {o : CoverageOptions}
    {l : Localizer} {n : Nat} (hl : coverageCatalogs data files o = (l, .ok n))
    (hs : l.store.hasLocale o.source = true) :
    ∃ rows : List Coverage,
      (∀ row ∈ rows, IsCoverage l.store o.source row) ∧
      (o.languages = [] → (rows.map (·.language)).Pairwise (· < ·) ∧
        ∀ tag, tag ∈ rows.map (·.language) ↔
          tag ∈ l.store.locales ∧ tag ≠ normalize o.source) ∧
      (o.languages ≠ [] → rows.map (·.language) = o.languages.map normalize) ∧
      ∀ json, ∃ outcome,
        coverage data files { o with json := json } = .ok outcome ∧
        outcome = showCoverage { o with json := json } (l.store.keys o.source).length rows ∧
        (outcome.code = badData ↔ o.strict = true ∧ ∃ row ∈ rows, row.missing ≠ []) ∧
        (outcome.code = success ↔ ¬(o.strict = true ∧ ∃ row ∈ rows, row.missing ≠ [])) := by
  have hw : l.store.WellFormed := by
    have h : (coverageCatalogs data files o).1.store.WellFormed :=
      Localizer.wellFormed_loadDirectory files o.messages Store.wellFormed_empty
    rwa [hl] at h
  refine ⟨coverageRows l.store (normalize o.source) o.languages,
    fun row => isCoverage_of_mem_coverageRows hw, fun hn => ?_, fun hn => ?_, fun json => ?_⟩
  · rw [map_language_coverageRows, reportedLanguages, hn]
    refine ⟨(Store.pairwise_treeMap_keys _).filter _, fun tag => ?_⟩
    simp
  · rw [map_language_coverageRows, reportedLanguages, if_neg (by simpa using hn)]
  · refine ⟨_, coverage_eq hl hs, rfl, ?_⟩
    rw [code_showCoverage]
    split <;> simp_all [badData, success]

/-- Catalogs of which the second lacks a key of the first and has another one. -/
def twoCatalogs : Files := .ofFound
  [("texts/en.json", .ok "\x7b\"bye\": \"Bye\", \"hello\": \"Hello\"\x7d"),
    ("texts/fi.json", .ok "\x7b\"extra\": \"Lisä\", \"hello\": \"Hei\"\x7d")]
  [("texts", .ok ["en.json", "fi.json", "notes.txt"])]

theorem loadDirectory_twoCatalogs (l : Localizer) :
    l.loadDirectory twoCatalogs "texts" =
      l.loadCatalogs twoCatalogs "texts" ["en.json", "fi.json"] := by
  have hf : ["en.json", "fi.json", "notes.txt"].filter Localizer.isCatalog =
      ["en.json", "fi.json"] := by
    decide +kernel
  change l.loadCatalogs twoCatalogs "texts" ((List.filter _ _).mergeSort _) = _
  rw [hf, List.mergeSort_of_pairwise (by decide +kernel)]

/-- The source may be spelled in capitals. -/
theorem coverage_partitions_keys_twoCatalogs :
    let o : CoverageOptions := ⟨"texts", "EN", [], true, false⟩
    (coverageCatalogs .excerpt twoCatalogs o).2 = .ok 4 ∧
      (coverageCatalogs .excerpt twoCatalogs o).1.store.hasLocale o.source = true ∧
      ∃ outcome, coverage .excerpt twoCatalogs { o with json := true } = .ok outcome ∧
        outcome.code = badData := by
  intro o
  have hd : coverageCatalogs .excerpt twoCatalogs o =
      (Localizer.create .excerpt defaultFinal defaultFinal false none).loadCatalogs twoCatalogs
        "texts" ["en.json", "fi.json"] := loadDirectory_twoCatalogs _
  have hr : (coverageCatalogs .excerpt twoCatalogs o).2 = .ok 4 := by
    have hn : (coverageCatalogs .excerpt twoCatalogs o).2.toOption = some 4 := by
      rw [hd]
      decide +kernel
    cases he : (coverageCatalogs .excerpt twoCatalogs o).2 with
    | error e =>
      rw [he] at hn
      cases hn
    | ok n =>
      rw [he] at hn
      exact congrArg _ (Option.some.inj hn)
  have hs : (coverageCatalogs .excerpt twoCatalogs o).1.store.hasLocale o.source = true := by
    rw [hd]
    decide +kernel
  obtain ⟨rows, hrows, hlang, -, hout⟩ := coverage_partitions_keys (Prod.ext rfl hr) hs
  obtain ⟨outcome, ho, -, hc, -⟩ := hout true
  refine ⟨hr, hs, outcome, ho, hc.mpr ⟨rfl, ?_⟩⟩
  have hfi : "fi" ∈ rows.map (·.language) := by
    rw [(hlang rfl).2, hd]
    decide +kernel
  obtain ⟨row, hm, hl⟩ := List.mem_map.mp hfi
  refine ⟨row, hm, List.ne_nil_of_mem (a := "bye") ?_⟩
  have hn : normalize "fi" = row.language := by
    rw [hl]
    decide +kernel
  rw [(hrows row hm).mem_missing_iff hn, hd]
  decide +kernel

end Report
end WikiMessage
