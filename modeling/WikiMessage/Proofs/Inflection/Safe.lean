import WikiMessage.Inflection.Language
import WikiMessage.Proofs.Markup.SafeMarkup

/-!
# Inflected markup

A word may hold markup. Inflecting it adds text without tags and takes off only such endings and
beginnings as are no part of a tag, so that safe markup stays safe in every language.
-/

namespace WikiMessage.Inflection

open WikiMessage.Text Markup

/-- The rule makes safe markup of safe markup, whatever the form. -/
def KeepsSafe (d : Decoder) (rule : Rule) : Prop :=
  ∀ ⦃word form⦄, SafeMarkup d word → SafeMarkup d (rule word form)

variable {d : Decoder} {word result : List Char}

theorem safe_replaceEnd? {ending replacement : String} (h : SafeMarkup d word)
    (he : '>' ∉ ending.toList) (hr : '<' ∉ replacement.toList)
    (hs : replaceEnd? word ending replacement = some result) : SafeMarkup d result := by
  obtain ⟨stem, rfl, rfl⟩ := replaceEnd?_eq_some.mp hs
  exact (h.of_append_left he).after hr

theorem safe_replaceFirst? {endings : List (String × String)} (h : SafeMarkup d word)
    (he : ∀ p ∈ endings, '>' ∉ p.1.toList ∧ '<' ∉ p.2.toList) :
    SafeMarkup d ((replaceFirst? word endings).getD word) := by
  cases hs : replaceFirst? word endings with
  | none => exact h
  | some result =>
    obtain ⟨p, hp, hr⟩ := List.exists_of_findSome?_eq_some hs
    exact safe_replaceEnd? h (he p hp).1 (he p hp).2 hr

theorem safe_replaceEndAnyCase? {ending replacement : String} (h : SafeMarkup d word)
    (he : '>' ∉ ending.toList) (hr : '<' ∉ replacement.toList)
    (hs : replaceEndAnyCase? word ending replacement = some result) : SafeMarkup d result := by
  simp only [replaceEndAnyCase?, Option.ite_none_right_eq_some, Option.some.injEq] at hs
  obtain ⟨hl, rfl⟩ := hs
  refine SafeMarkup.after ?_ hr
  refine @SafeMarkup.of_append_left d _ (word.drop (word.length - ending.length)) ?_ fun hm => ?_
  · rwa [List.take_append_drop]
  · rw [List.length_take, Nat.min_eq_left (Nat.sub_le _ _)] at hl
    exact he (hl ▸ List.mem_map.mpr ⟨'>', hm, rfl⟩)

theorem safe_latinStep {step : LatinStep} (h : SafeMarkup d word)
    (he : ∀ e ∈ step.endings, '>' ∉ e.toList) (hr : '<' ∉ step.replacement.toList) :
    SafeMarkup d (LatinStep.apply word step) := by
  unfold LatinStep.apply
  cases hs : step.endings.findSome? fun e => replaceEndAnyCase? word e step.replacement with
  | none => exact h
  | some result =>
    obtain ⟨e, hm, hs⟩ := List.exists_of_findSome?_eq_some hs
    exact safe_replaceEndAnyCase? h (he e hm) hr hs

theorem keepsSafe_russian : KeepsSafe d russian := by
  intro word form h
  refine safe_replaceFirst? h ?_
  unfold russianEndings
  split <;> decide

theorem keepsSafe_ukrainian : KeepsSafe d ukrainian := by
  intro word form h
  refine safe_replaceFirst? h ?_
  unfold ukrainianEndings
  split <;> decide

theorem safe_foldl_latinStep {steps : List LatinStep} (h : SafeMarkup d word)
    (hs : ∀ step ∈ steps, (∀ e ∈ step.endings, '>' ∉ e.toList) ∧ '<' ∉ step.replacement.toList) :
    SafeMarkup d (steps.foldl LatinStep.apply word) := by
  induction steps generalizing word with
  | nil => exact h
  | cons step steps ih =>
    obtain ⟨⟨he, hr⟩, ht⟩ := List.forall_mem_cons.mp hs
    exact ih (safe_latinStep h he hr) ht

theorem keepsSafe_latin : KeepsSafe d latin := by
  intro word form h
  refine safe_foldl_latinStep h ?_
  unfold latinSteps
  split <;> decide

theorem keepsSafe_armenian : KeepsSafe d armenian := by
  intro word form h
  unfold armenian
  split
  · have hi := h.after (show '<' ∉ "ի".toList from by decide)
    cases hs : replaceFirst? word [("ա", "այի"), ("ո", "ոյի"), ("գիրք", "գրքի")] with
    | none => exact hi
    | some result =>
      have hr := @safe_replaceFirst? d word [("ա", "այի"), ("ո", "ոյի"), ("գիրք", "գրքի")] h
        (by decide)
      rwa [hs] at hr
  · exact h

theorem keepsSafe_bosnian : KeepsSafe d bosnian := by
  intro word form h
  unfold bosnian
  split
  · exact h.before (by decide)
  · exact h.before (by decide)
  · exact h

theorem keepsSafe_sorbian : KeepsSafe d sorbian := by
  intro word form h
  unfold sorbian
  split
  · exact h.before (by decide)
  · exact h.before (by decide)
  · exact h

theorem keepsSafe_slovenian : KeepsSafe d slovenian := by
  intro word form h
  unfold slovenian
  split
  · exact h.before (by decide)
  · exact h.before (by decide)
  · exact h

theorem keepsSafe_hungarian : KeepsSafe d hungarian := by
  intro word form h
  unfold hungarian
  split
  · exact h.after (by decide)
  · exact h.after (by decide)
  · exact h.after (by decide)
  · exact h

theorem keepsSafe_irish : KeepsSafe d irish := by
  intro word form h
  unfold irish
  split
  · split
    case h_8 => exact h
    all_goals exact .of_not_mem (by decide)
  · exact h

theorem safe_doubleWaw (h : SafeMarkup d word) : SafeMarkup d (doubleWaw word) := by
  unfold doubleWaw
  split
  · split
    · exact .char (by decide) h
    · exact h
  · exact h

theorem safe_dropArticle (h : SafeMarkup d word) : SafeMarkup d (dropArticle word) := by
  unfold dropArticle
  split
  · split
    · rename_i hc
      exact h.of_cons (hc ▸ by decide)
    · exact h
  · exact h

theorem keepsSafe_hebrew : KeepsSafe d hebrew := by
  intro word form h
  have hd := safe_dropArticle (safe_doubleWaw h)
  unfold hebrew
  split
  · unfold withMaqaf
    split
    · exact hd
    · exact .char (by decide) hd
  · exact h

theorem keepsSafe_finnish : KeepsSafe d finnish := by
  intro word form h
  have hs : SafeMarkup d (finnishStem word) := by
    unfold finnishStem
    split
    · exact h.after (by decide)
    · exact h
  have hh (b : Bool) {back front : String} (hb : '<' ∉ back.toList) (hf : '<' ∉ front.toList) :
      SafeMarkup d (finnishStem word ++ (if b then back else front).toList) := by
    cases b with
    | false => exact hs.after hf
    | true => exact hs.after hb
  simp only [finnish]
  split
  · exact hs.after (by decide)
  · exact hh _ (by decide) (by decide)
  · exact hh _ (by decide) (by decide)
  · exact (hs.after (Grapheme.not_mem_last hs.tagsBegin)).after (by decide)
  · exact hh _ (by decide) (by decide)
  · exact h

/-- A word that loses its last letter does not end in a tag. -/
theorem not_mem_getLast_of_ossetianPlural {cs : List Char} {c : Char}
    (h : (dropEnd? "тæ".toList (lowerChars (cs ++ [c]))).isSome = true) : '>' ∉ [c] := by
  obtain ⟨rest, hr⟩ := Option.isSome_iff_exists.mp h
  have he := dropEnd?_eq_some.mp hr
  rw [List.mem_singleton]
  rintro rfl
  obtain ⟨start, hs⟩ := @lowerFrom_concat false cs '>' (by decide)
  rw [lowerChars, hs, lowerChar_of_isAscii (by decide)] at he
  have hl := congrArg List.getLast? he
  simp at hl

theorem safe_ossetianStem (h : SafeMarkup d word) :
    SafeMarkup d (OssetianWord.ofWord word).stem := by
  simp only [OssetianWord.ofWord]
  split
  · rename_i hp
    rcases List.eq_nil_or_concat word with rfl | ⟨cs, c, rfl⟩
    · exact .nil
    · rw [List.concat_eq_append] at h hp
      simpa using h.of_append_left (not_mem_getLast_of_ossetianPlural hp)
  split
  · exact h
  split
  · exact h
  · exact h

theorem not_mem_ossetianWord (word : List Char) :
    '<' ∉ (OssetianWord.ofWord word).allative.toList ∧
      '<' ∉ (OssetianWord.ofWord word).joint.toList ∧
      '<' ∉ (OssetianWord.ofWord word).hyphen.toList := by
  simp only [OssetianWord.ofWord]
  split
  · dsimp only
    decide
  split
  · dsimp only
    decide
  split
  · dsimp only
    decide
  · dsimp only
    decide

theorem not_mem_ossetianEnding {word : List Char} {form ending : String}
    (h : (OssetianWord.ofWord word).ending? form = some ending) : '<' ∉ ending.toList := by
  obtain ⟨ha, hj, hh⟩ := not_mem_ossetianWord word
  unfold OssetianWord.ending? at h
  split at h
  case h_8 => cases h
  all_goals
    obtain rfl := Option.some.inj h
    simp only [String.toList_append, List.mem_append, not_or]
  · exact ⟨⟨hh, hj⟩, by decide⟩
  · exact ⟨⟨hh, hj⟩, by decide⟩
  · exact ⟨hh, ha⟩
  · refine ⟨⟨hh, hj⟩, ?_⟩
    split <;> decide
  · exact ⟨⟨hh, hj⟩, by decide⟩
  · exact ⟨⟨hh, hj⟩, by decide⟩
  · exact ⟨hh, by decide⟩

theorem keepsSafe_ossetian : KeepsSafe d ossetian := by
  intro word form h
  simp only [ossetian]
  split
  · rename_i ending he
    exact (safe_ossetianStem h).after (not_mem_ossetianEnding he)
  · exact h

theorem keepsSafe_of_languageRule? {tag : String} {rule : Rule}
    (h : languageRule? tag = some rule) : KeepsSafe d rule := by
  unfold languageRule? at h
  split at h
  case h_14 => cases h
  all_goals obtain rfl := Option.some.inj h
  · exact keepsSafe_bosnian
  · exact keepsSafe_sorbian
  · exact keepsSafe_finnish
  · exact keepsSafe_irish
  · exact keepsSafe_hebrew
  · exact keepsSafe_sorbian
  · exact keepsSafe_hungarian
  · exact keepsSafe_armenian
  · exact keepsSafe_latin
  · exact keepsSafe_ossetian
  · exact keepsSafe_russian
  · exact keepsSafe_slovenian
  · exact keepsSafe_ukrainian

theorem safe_inflect {tag word form : String} (h : SafeMarkup d word.toList) :
    SafeMarkup d (inflect tag word form).toList := by
  unfold inflect
  split
  · rename_i rule hr
    obtain ⟨t, -, ht⟩ := List.exists_of_findSome?_eq_some hr
    rw [String.toList_ofList]
    exact keepsSafe_of_languageRule? ht h
  · exact h

end WikiMessage.Inflection
