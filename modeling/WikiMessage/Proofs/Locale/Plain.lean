import WikiMessage.Catalog.Store
import WikiMessage.Proofs.Locale.Normal
import WikiMessage.Proofs.Text.Ascii

/-!
# Plain tags

The normal form of a locale is a tag of small letters, digits and `-`, and such a tag is its own
normal form. It is the longest of its truncations unless one of its subtags is empty; then it is
none of them, because truncations leave out empty subtags.
-/

namespace WikiMessage.Locale

open WikiMessage.Text

/-- Small letters and digits of ASCII, and the separator of normal tags. -/
def isPlainChar (c : Char) : Bool := c.isLower || c.isDigit || c = '-'

theorem isPlainChar_iff {c : Char} :
    isPlainChar c = true ↔ 'a' ≤ c ∧ c ≤ 'z' ∨ '0' ≤ c ∧ c ≤ '9' ∨ c = '-' := by
  have hl : c.isLower = true ↔ 'a' ≤ c ∧ c ≤ 'z' :=
    Bool.and_eq_true_iff.trans (and_congr decide_eq_true_iff decide_eq_true_iff)
  have hd : c.isDigit = true ↔ '0' ≤ c ∧ c ≤ '9' :=
    Bool.and_eq_true_iff.trans (and_congr decide_eq_true_iff decide_eq_true_iff)
  simp only [isPlainChar, Bool.or_eq_true, hl, hd, decide_eq_true_eq, or_assoc]

/-- The characters of locales. -/
def isLocaleChar (c : Char) : Bool := c.isAlphanum || c = '-' || c = '_'

theorem isLocale_iff {tag : String} : Catalog.Store.isLocale tag = true ↔
    tag ≠ "" ∧ ∀ c ∈ tag.toList, isLocaleChar c = true := by
  simp [Catalog.Store.isLocale, isLocaleChar]

theorem isLocaleChar_of_isPlainChar {c : Char} (h : isPlainChar c = true) :
    isLocaleChar c = true := by
  simp only [isPlainChar, Bool.or_eq_true, decide_eq_true_eq] at h
  rcases h with (h | h) | rfl
  · have ha : c.isAlpha = true := Bool.or_eq_true_iff.mpr (.inr h)
    simp [isLocaleChar, Char.isAlphanum, ha]
  · simp [isLocaleChar, Char.isAlphanum, h]
  · rfl

theorem isAscii_of_isLocaleChar {c : Char} (h : isLocaleChar c = true) : isAscii c = true := by
  simp only [isLocaleChar, Bool.or_eq_true, decide_eq_true_eq] at h
  rcases h with (h | rfl) | rfl
  · exact isAscii_of_isAlphanum h
  · rfl
  · rfl

/-- What is known of each character of a locale. -/
structure LocaleCharFacts (c : Char) : Prop where
  isBlank : isBlank c = false
  isPlainChar : isPlainChar (hyphen c.toLower) = true
  hyphen_eq : Locale.isPlainChar c = true → hyphen c.toLower = c

theorem localeCharFacts {c : Char} (h : isLocaleChar c = true) : LocaleCharFacts c := by
  have hb : isBlank c = false := by
    simp only [isLocaleChar, Bool.or_eq_true, decide_eq_true_eq] at h
    rcases h with (h | rfl) | rfl
    · exact isBlank_of_isAlphanum h
    · rfl
    · rfl
  have hf : isLocaleChar c = true → isPlainChar (hyphen c.toLower) = true ∧
      (isPlainChar c = true → hyphen c.toLower = c) :=
    forall_isAscii (P := fun c => isLocaleChar c = true → isPlainChar (hyphen c.toLower) = true ∧
      (isPlainChar c = true → hyphen c.toLower = c)) (by decide +kernel) (isAscii_of_isLocaleChar h)
  obtain ⟨hp, he⟩ := hf h
  exact ⟨hb, hp, he⟩

/-- A locale has no blanks to trim off and no letters but those of ASCII. -/
theorem normalizeChars_of_isLocaleChar {cs : List Char} (h : ∀ c ∈ cs, isLocaleChar c = true) :
    normalizeChars cs = cs.map fun c => hyphen c.toLower := by
  have ht : trimChars cs = cs := trimChars_eq_self
    (fun c hc => (localeCharFacts (h c (List.mem_of_mem_head? hc))).isBlank)
    (fun c hc => (localeCharFacts (h c (List.mem_of_mem_getLast? hc))).isBlank)
  rw [normalizeChars_eq, ht, lowerChars,
    lowerFrom_of_isAscii fun c hc => isAscii_of_isLocaleChar (h c hc), List.map_map]
  rfl

/-- A tag of plain characters. -/
structure IsPlain (tag : String) : Prop where
  ne_empty : tag ≠ ""
  isPlainChar : ∀ c ∈ tag.toList, isPlainChar c = true

theorem IsPlain.isLocaleChar {tag : String} (h : IsPlain tag) :
    ∀ c ∈ tag.toList, isLocaleChar c = true :=
  fun c hc => isLocaleChar_of_isPlainChar (h.isPlainChar c hc)

theorem IsPlain.normalize_eq {tag : String} (h : IsPlain tag) : normalize tag = tag := by
  have hm : tag.toList.map (fun c => hyphen c.toLower) = tag.toList :=
    (List.map_congr_left fun c hc =>
      (localeCharFacts (h.isLocaleChar c hc)).hyphen_eq (h.isPlainChar c hc)).trans (List.map_id _)
  rw [normalize, normalizeChars_of_isLocaleChar h.isLocaleChar, hm, String.ofList_toList]

theorem isPlain_normalize {tag : String} (h : Catalog.Store.isLocale tag = true) :
    IsPlain (normalize tag) := by
  obtain ⟨hn, hc⟩ := isLocale_iff.mp h
  have he := normalizeChars_of_isLocaleChar hc
  constructor
  · rw [ne_eq, ← String.toList_inj, toList_normalize, he, String.toList_empty,
      List.map_eq_nil_iff, String.toList_eq_nil_iff]
    exact hn
  · rw [toList_normalize, he]
    intro d hd
    obtain ⟨c, hm, rfl⟩ := List.mem_map.mp hd
    exact (localeCharFacts (hc c hm)).isPlainChar

/-- Subtags of a plain tag have no blanks, together or each alone. -/
theorem IsPlain.trimChars_intercalate {tag : String} (h : IsPlain tag) {parts : List (List Char)}
    (hp : ∀ part ∈ parts, ∀ c ∈ part, c ∈ tag.toList) :
    trimChars (['-'].intercalate parts) = ['-'].intercalate parts := by
  have hb : ∀ c ∈ ['-'].intercalate parts, isBlank c = false := by
    intro c hc
    by_contra hbc
    have hd : c ≠ '-' := by
      rintro rfl
      exact hbc rfl
    refine not_mem_intercalate hd (fun part hm hcp => hbc ?_) hc
    exact (localeCharFacts (h.isLocaleChar c (hp part hm c hcp))).isBlank
  exact trimChars_eq_self (fun c hc => hb c (List.mem_of_mem_head? hc))
    (fun c hc => hb c (List.mem_of_mem_getLast? hc))

theorem mem_normalSubtags {tag : String} {part : List Char} :
    part ∈ normalSubtags tag ↔ part ∈ tag.toList.splitOnP (· = '-') ∧ part ≠ [] := by
  simp [normalSubtags]

/-- The truncations of a plain tag are plain. -/
theorem IsPlain.truncations_eq {tag : String} (h : IsPlain tag) :
    truncations tag = normalTruncations tag := by
  have hs : subtags tag = normalSubtags tag := by
    rw [← h.normalize_eq, subtags_normalize, normalSubtags_normalize]
  have hk (k : Nat) : trimChars (['-'].intercalate ((normalSubtags tag).take k)) =
      ['-'].intercalate ((normalSubtags tag).take k) :=
    h.trimChars_intercalate fun part hp c hc =>
      (of_mem_splitOnP (mem_normalSubtags.mp (List.mem_of_mem_take hp)).1 c hc).1
  simp only [truncations, normalTruncations, ofSubtags, hs, hk]

/-- With no empty subtag to leave out, the longest truncation is the tag itself. -/
theorem IsPlain.normalTruncations_eq_cons {tag : String} (h : IsPlain tag)
    (hn : [] ∉ tag.toList.splitOnP (· = '-')) :
    ∃ shorter, normalTruncations tag = tag :: shorter := by
  have hs : normalSubtags tag = tag.toList.splitOnP (· = '-') := by
    refine List.filter_eq_self.mpr fun part hp => ?_
    cases part with
    | nil => exact absurd hp hn
    | cons c part => rfl
  obtain ⟨k, hk⟩ := Nat.exists_eq_succ_of_ne_zero
    (mt List.length_eq_zero_iff.mp (List.splitOnP_ne_nil (· = '-') tag.toList))
  have hw : ['-'].intercalate (tag.toList.splitOnP (· = '-')) = tag.toList :=
    List.intercalate_splitOn '-'
  have ht : trimChars tag.toList = tag.toList := by
    rw [← hw]
    exact h.trimChars_intercalate fun part hp c hc => (of_mem_splitOnP hp c hc).1
  rw [normalTruncations, hs, hk, List.range_succ, List.reverse_append, List.reverse_singleton,
    List.singleton_append, List.map_cons, List.take_of_length_le (Nat.le_of_eq hk), hw, ht,
    String.ofList_toList]
  exact ⟨_, rfl⟩

/-- A tag with an empty subtag is none of its truncations. -/
theorem IsPlain.not_mem_normalTruncations {tag : String} (h : IsPlain tag)
    (he : [] ∈ tag.toList.splitOnP (· = '-')) : tag ∉ normalTruncations tag := by
  intro hm
  obtain ⟨k, hk, ht⟩ := List.mem_map.mp hm
  have hk' : k < (normalSubtags tag).length := List.mem_range.mp (List.mem_reverse.mp hk)
  have hp : ∀ part ∈ (normalSubtags tag).take (k + 1),
      part ∈ tag.toList.splitOnP (· = '-') ∧ part ≠ [] :=
    fun part hp => mem_normalSubtags.mp (List.mem_of_mem_take hp)
  have hd : ∀ part ∈ (normalSubtags tag).take (k + 1), '-' ∉ part := fun part hm hc =>
    of_decide_eq_false (of_mem_splitOnP (hp part hm).1 '-' hc).2 rfl
  have hn : (normalSubtags tag).take (k + 1) ≠ [] := by
    intro hnil
    have hl := congrArg List.length hnil
    rw [List.length_take, List.length_nil] at hl
    omega
  -- a truncation is split into its subtags again, none of which is empty
  have hs : tag.toList.splitOnP (· = '-') = (normalSubtags tag).take (k + 1) := by
    rw [h.trimChars_intercalate fun part hm c hc => (of_mem_splitOnP (hp part hm).1 c hc).1] at ht
    have hc := congrArg String.toList ht
    rw [String.toList_ofList] at hc
    rw [← hc]
    exact List.splitOn_intercalate '-' hd hn
  exact (hp [] (hs ▸ he)).2 rfl

/-- Normalizing a locale neither adds nor fills an empty subtag. -/
theorem nil_mem_splitOnP_normalize {tag : String} (h : Catalog.Store.isLocale tag = true) :
    [] ∈ (normalize tag).toList.splitOnP (· = '-') ↔ [] ∈ tag.toList.splitOnP isSeparator := by
  have hb : ∀ c ∈ tag.toList, isBlank c = false :=
    fun c hc => (localeCharFacts ((isLocale_iff.mp h).2 c hc)).isBlank
  have ht : trimChars tag.toList = tag.toList := trimChars_eq_self
    (fun c hc => hb c (List.mem_of_mem_head? hc)) (fun c hc => hb c (List.mem_of_mem_getLast? hc))
  rw [toList_normalize, splitOnP_normalizeChars, ht, List.mem_map]
  constructor
  · rintro ⟨part, hm, hp⟩
    exact lowerChars_eq_nil_iff.mp hp ▸ hm
  · intro hm
    exact ⟨[], hm, rfl⟩

end WikiMessage.Locale
