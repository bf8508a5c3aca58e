import WikiMessage.Localizer

/-!
# Names of catalogs

The locale of a catalog is the name of its file without the extension, whether the file is reached
by its path or through its directory.
-/

namespace WikiMessage.Catalog

/-- The locale of a file: its name without the extension, or English if it has no name. -/
def ownLocale (path : String) : String := (stem? path).getD "en"

/-- A name is the last part of its path in a directory. -/
theorem components_joinPath (directory : String) {name : String} (h : '/' ∉ name.toList) :
    ∃ above, components (joinPath directory name) = above ++ [name] := by
  have hn : name.toList.splitOnP (· = '/') = [name.toList] := by
    refine List.splitOnP_eq_singleton fun c hc => decide_eq_false ?_
    rintro rfl
    exact h hc
  have hs : ∀ start : List Char, ∃ above,
      ((start ++ '/' :: name.toList).splitOnP (· = '/')).map String.ofList = above ++ [name] := by
    intro start
    have hc := @List.splitOnP_append_cons _ (· = '/') start name.toList '/' rfl
    rw [hc, hn, List.map_append]
    exact ⟨_, by rw [List.map_singleton, String.ofList_toList]⟩
  unfold joinPath components
  split
  case isTrue hd =>
    rw [String.toList_append]
    rcases List.eq_nil_or_concat directory.toList with he | ⟨start, c, he⟩
    · rw [he, List.nil_append, hn]
      exact ⟨[], by rw [List.map_singleton, String.ofList_toList, List.nil_append]⟩
    · rw [List.concat_eq_append] at he
      have hc : c = '/' := by
        rw [Bool.or_eq_true, decide_eq_true_eq, String.isEmpty_iff, he, List.getLast?_concat] at hd
        rcases hd with rfl | hd
        · simp at he
        · exact Option.some.inj hd
      rw [he, hc, List.append_assoc, List.singleton_append]
      exact hs start
  case isFalse =>
    rw [String.toList_append, String.toList_append, List.append_assoc]
    exact hs directory.toList

theorem isCatalog_ne {name : String} (h : Localizer.isCatalog name = true) :
    name ≠ "" ∧ name ≠ "." ∧ name ≠ ".." := by
  refine ⟨?_, ?_, ?_⟩
  all_goals
    rintro rfl
    revert h
    decide +kernel

/-- The locale of a catalog in a directory. -/
theorem ownLocale_joinPath (directory : String) {name : String} (h : '/' ∉ name.toList)
    (hc : Localizer.isCatalog name = true) :
    ownLocale (joinPath directory name) = (splitExtension name).1 := by
  obtain ⟨above, ha⟩ := components_joinPath directory h
  obtain ⟨he, hp, hu⟩ := isCatalog_ne hc
  have hf : fileName? (joinPath directory name) = some name := by
    have hl : [name].filter (fun c => c ≠ "" && c ≠ ".") = [name] := by simp [he, hp]
    rw [fileName?, ha, List.filter_append, hl, List.getLast?_concat]
    exact if_neg hu
  rw [ownLocale, stem?, hf]
  rfl

end WikiMessage.Catalog
