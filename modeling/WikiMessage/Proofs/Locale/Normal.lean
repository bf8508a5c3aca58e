import WikiMessage.Locale.Tag
import WikiMessage.Proofs.Text.SmallLetters

/-!
# Truncations of equal tags

Tags of one normal form have truncations of one normal form each: the subtags of the normal tag are
the small letters of those of the tag, and a truncation is normal up to blanks around it.
-/

namespace WikiMessage.Locale

open WikiMessage.Text

theorem isBoundary_of_isSeparator {c : Char} (h : isSeparator c = true) : isBoundary c = true := by
  simp only [isSeparator, Bool.or_eq_true, decide_eq_true_eq] at h
  rcases h with rfl | rfl <;> rfl

/-- The separator of normal tags in place of the other one. -/
def hyphen (c : Char) : Char := if c = '_' then '-' else c

theorem normalizeChars_eq (tag : List Char) :
    normalizeChars tag = (lowerChars (trimChars tag)).map hyphen := rfl

theorem map_hyphen {cs : List Char} (h : '_' ∉ cs) : cs.map hyphen = cs := by
  refine (List.map_congr_left fun c hc => ?_).trans (List.map_id _)
  have hn : c ≠ '_' := by
    rintro rfl
    exact h hc
  rw [hyphen, if_neg hn]
  rfl

theorem not_mem_of_not_isSeparator {cs : List Char} (h : ∀ c ∈ cs, isSeparator c = false) {c : Char}
    (hc : isSeparator c = true) : c ∉ cs := by
  intro hm
  rw [h c hm] at hc
  cases hc

theorem splitOnP_map_hyphen (cs : List Char) :
    (cs.map hyphen).splitOnP (· = '-') = cs.splitOnP isSeparator := by
  induction cs using splitOnP_induction (p := isSeparator) with
  | single cs h =>
    have hn : ∀ c ∈ cs, decide (c = '-') = false := fun c hc => decide_eq_false fun he =>
      not_mem_of_not_isSeparator h rfl (he ▸ hc)
    rw [map_hyphen (not_mem_of_not_isSeparator h rfl), List.splitOnP_eq_singleton hn,
      List.splitOnP_eq_singleton h]
  | cut part c cs h hc ih =>
    have hn : ∀ c ∈ part, decide (c = '-') = false := fun c hc => decide_eq_false fun he =>
      not_mem_of_not_isSeparator h rfl (he ▸ hc)
    have hh : hyphen c = '-' := by
      simp only [isSeparator, Bool.or_eq_true, decide_eq_true_eq] at hc
      rcases hc with rfl | rfl <;> rfl
    rw [List.map_append, List.map_cons, map_hyphen (not_mem_of_not_isSeparator h rfl), hh,
      List.splitOnP_append_cons_of_forall_mem hn '-' rfl, ih,
      List.splitOnP_append_cons_of_forall_mem h c hc]

theorem hyphen_hyphen (c : Char) : hyphen (hyphen c) = hyphen c := by
  unfold hyphen
  split <;> rfl

theorem isBlank_hyphen (c : Char) : isBlank (hyphen c) = isBlank c := by
  unfold hyphen
  split
  · rename_i h
    rw [h]
    rfl
  · rfl

theorem trimChars_normalizeChars (tag : List Char) :
    trimChars (normalizeChars tag) = normalizeChars tag := by
  rw [normalizeChars_eq, trimChars_map isBlank_hyphen, lowerChars_trimChars, trimChars_trimChars]

/-- A hyphen has no other small letter either. -/
theorem lowerChar_of_mem_normalizeChars {tag : List Char} {d : Char}
    (h : d ∈ normalizeChars tag) : LowerCase.lowerChar d = [d] := by
  obtain ⟨c, hc, rfl⟩ := List.mem_map.mp h
  split
  · decide +kernel
  · exact lowerChar_of_mem_lowerChars hc

theorem normalizeChars_normalizeChars (tag : List Char) :
    normalizeChars (normalizeChars tag) = normalizeChars tag := by
  have hl : lowerChars (normalizeChars tag) = normalizeChars tag :=
    LowerCase.lowerFrom_eq_self fun _ => lowerChar_of_mem_normalizeChars
  rw [normalizeChars_eq (normalizeChars tag), trimChars_normalizeChars, hl, normalizeChars_eq,
    List.map_map, show hyphen ∘ hyphen = hyphen from funext hyphen_hyphen]

theorem normalize_normalize (tag : String) : normalize (normalize tag) = normalize tag := by
  rw [normalize, toList_normalize, normalizeChars_normalizeChars]
  rfl

theorem splitOnP_normalizeChars (tag : List Char) :
    (normalizeChars tag).splitOnP (· = '-') =
      ((trimChars tag).splitOnP isSeparator).map lowerChars := by
  rw [normalizeChars_eq, splitOnP_map_hyphen,
    splitOnP_lowerChars fun _ => isBoundary_of_isSeparator]

/-- The subtags of a normal tag. -/
def normalSubtags (tag : String) : List (List Char) :=
  (tag.toList.splitOnP (· = '-')).filter fun subtag => !subtag.isEmpty

theorem normalSubtags_normalize (tag : String) :
    normalSubtags (normalize tag) = (subtags tag).map lowerChars := by
  have he : ((fun s : List Char => !s.isEmpty) ∘ lowerChars) = fun s => !s.isEmpty := by
    funext s
    rw [Function.comp, Bool.eq_iff_iff]
    simp [lowerChars_eq_nil_iff]
  rw [normalSubtags, toList_normalize, splitOnP_normalizeChars, List.filter_map, he, subtags]

/-- The subtags of a normal form are the small letters of the subtags. -/
theorem subtags_normalize (tag : String) :
    subtags (normalize tag) = (subtags tag).map lowerChars := by
  have hs := splitOnP_map_hyphen ((lowerChars (trimChars tag.toList)).map hyphen)
  rw [List.map_map, show hyphen ∘ hyphen = hyphen from funext hyphen_hyphen,
    ← normalizeChars_eq] at hs
  rw [← normalSubtags_normalize, normalSubtags, subtags, toList_normalize,
    trimChars_normalizeChars, hs]

theorem not_isSeparator_of_mem_subtags {tag : String} {part : List Char} (h : part ∈ subtags tag) :
    ∀ c ∈ part, isSeparator c = false :=
  fun c hc => (of_mem_splitOnP (List.mem_filter.mp h).1 c hc).2

theorem not_mem_intercalate {c d : Char} (hd : c ≠ d) {parts : List (List Char)}
    (h : ∀ part ∈ parts, c ∉ part) : c ∉ [d].intercalate parts := by
  induction parts with
  | nil => simp
  | cons part parts ih =>
    obtain ⟨hp, hr⟩ := List.forall_mem_cons.mp h
    cases parts with
    | nil => simpa using hp
    | cons part' parts =>
      rw [List.intercalate_cons_cons]
      simp [hp, hd, ih hr]

theorem mem_of_mem_trimChars {c : Char} {cs : List Char} (h : c ∈ trimChars cs) : c ∈ cs := by
  have hd := (List.dropWhile_sublist _).subset (List.mem_reverse.mp h)
  exact (List.dropWhile_sublist _).subset (List.mem_reverse.mp hd)

/-- Subtags that are put together again are normalized one by one, and then blanks around them are
trimmed off. -/
theorem toList_normalize_ofSubtags {parts : List (List Char)}
    (h : ∀ part ∈ parts, ∀ c ∈ part, isSeparator c = false) :
    (normalize (ofSubtags parts)).toList = trimChars (['-'].intercalate (parts.map lowerChars)) := by
  have hn : '_' ∉ ['-'].intercalate (parts.map lowerChars) := by
    refine not_mem_intercalate (by decide) fun part hp => ?_
    obtain ⟨source, hs, rfl⟩ := List.mem_map.mp hp
    refine not_mem_of_not_isSeparator ?_ rfl
    exact not_of_mem_lowerChars (fun _ => isBoundary_of_isSeparator) (h source hs)
  rw [toList_normalize, ofSubtags, String.toList_ofList, normalizeChars_eq, lowerChars_trimChars,
    lowerChars_intercalate rfl, map_hyphen fun hm => hn (mem_of_mem_trimChars hm)]

/-- The truncations of a normal form are the small letters of the truncations. -/
theorem truncations_normalize (tag : String) :
    truncations (normalize tag) = (truncations tag).map lower := by
  have hk (k : Nat) : ofSubtags (((subtags tag).map lowerChars).take k) =
      lower (ofSubtags ((subtags tag).take k)) := by
    rw [ofSubtags, ofSubtags, lower, String.toList_ofList, lowerChars_intercalate rfl,
      List.map_take]
  simp only [truncations, subtags_normalize, List.length_map, List.map_map, Function.comp_def, hk]

/-- The truncations of a normal tag in normal form, from the longest to the shortest. -/
def normalTruncations (tag : String) : List String :=
  let parts := normalSubtags tag
  (List.range parts.length).reverse.map fun k =>
    String.ofList (trimChars (['-'].intercalate (parts.take (k + 1))))

/-- The normal forms of the truncations depend on the normal form of the tag only. -/
theorem map_normalize_truncations (tag : String) :
    (truncations tag).map normalize = normalTruncations (normalize tag) := by
  have hk : ∀ k, normalize (ofSubtags ((subtags tag).take k)) =
      String.ofList (trimChars (['-'].intercalate (((subtags tag).map lowerChars).take k))) := by
    intro k
    rw [← List.map_take, ← toList_normalize_ofSubtags, String.ofList_toList]
    exact fun part hp => not_isSeparator_of_mem_subtags (List.mem_of_mem_take hp)
  simp only [truncations, normalTruncations, normalSubtags_normalize, List.length_map, List.map_map,
    Function.comp_def, hk]

end WikiMessage.Locale
