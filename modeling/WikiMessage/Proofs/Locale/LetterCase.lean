import WikiMessage.Locale.Fallback
import WikiMessage.Proofs.Language.Data
import WikiMessage.Proofs.Locale.Normal

/-!
# Tags in capitals and in small letters

Case is of no importance for the digits that are looked up by the tags of a fallback chain. If it is
of none for the symbols either, a tag of ASCII and its normal form give the same numbers, though the
chain keeps the capitals of the tag.
-/

namespace WikiMessage

open Text

namespace Locale

theorem isBlank_toLower (c : Char) : isBlank c.toLower = isBlank c :=
  apply_toLower (fun _ h => isBlank_of_isAlphanum (Bool.or_eq_true_iff.mpr (.inl h))) c

theorem isSeparator_toLower (c : Char) : isSeparator c.toLower = isSeparator c := by
  refine apply_toLower (fun c h => ?_) c
  rw [← Bool.not_eq_true, isSeparator, Bool.or_eq_true, decide_eq_true_eq, decide_eq_true_eq]
  rintro (rfl | rfl) <;> cases h

theorem subtags_lowerAscii (tag : String) :
    subtags (lowerAscii tag) = (subtags tag).map (List.map Char.toLower) := by
  have he : ((fun s : List Char => !s.isEmpty) ∘ List.map Char.toLower) = fun s => !s.isEmpty := by
    funext s
    cases s <;> rfl
  rw [subtags, toList_lowerAscii, trimChars_map isBlank_toLower, splitOnP_map isSeparator_toLower,
    List.filter_map, he, subtags]

theorem truncations_lowerAscii (tag : String) :
    truncations (lowerAscii tag) = (truncations tag).map lowerAscii := by
  have hk (k : Nat) : ofSubtags (((subtags tag).map (List.map Char.toLower)).take k) =
      lowerAscii (ofSubtags ((subtags tag).take k)) := by
    rw [ofSubtags, ofSubtags, lowerAscii, String.toList_ofList, map_intercalate, List.map_take]
    rfl
  simp only [truncations, subtags_lowerAscii, List.length_map, List.map_map, Function.comp_def, hk]

/-- The tag has no characters but those of ASCII. -/
def IsAsciiTag (tag : String) : Prop := ∀ c ∈ tag.toList, isAscii c = true

instance (tag : String) : Decidable (IsAsciiTag tag) :=
  decidable_of_iff (tag.toList.all isAscii = true) List.all_eq_true

namespace IsAsciiTag

variable {tag : String}

theorem of_mem_truncations (h : IsAsciiTag tag) {t : String} (ht : t ∈ truncations tag) :
    IsAsciiTag t := by
  obtain ⟨k, -, rfl⟩ := List.mem_map.mp ht
  intro c hc
  rw [ofSubtags, String.toList_ofList] at hc
  by_contra hn
  have hd : c ≠ '-' := by
    rintro rfl
    exact hn rfl
  refine not_mem_intercalate hd (fun part hp hcp => hn (h c ?_)) hc
  have hs := (List.mem_filter.mp (List.mem_of_mem_take hp)).1
  exact mem_of_mem_trimChars (of_mem_splitOnP hs c hcp).1

/-- The chain of the normal form is the chain of the tag but for capitals. -/
theorem map_lowerAscii_chain (h : IsAsciiTag tag) (table : FallbackTable) (final : String) :
    (table.chain final (Locale.normalize tag)).map lowerAscii =
      (table.chain final tag).map lowerAscii := by
  have ht : (truncations (Locale.normalize tag)).map lowerAscii =
      (truncations tag).map lowerAscii := by
    rw [truncations_normalize, List.map_map]
    refine List.map_congr_left fun t hm => ?_
    rw [Function.comp, lower_of_isAscii (h.of_mem_truncations hm), lowerAscii_lowerAscii]
  have hg : table.get (Locale.normalize tag) = table.get tag := by
    rw [FallbackTable.get, FallbackTable.get, normalize_normalize]
  simp only [FallbackTable.chain, List.map_append, ht, hg]

end IsAsciiTag

end Locale

namespace Number

open WikiMessage.Locale

theorem scriptDigits?_lowerAscii (tag : String) :
    scriptDigits? (lowerAscii tag) = scriptDigits? tag := by
  rw [scriptDigits?, truncations_lowerAscii, List.findSome?_map, scriptDigits?]
  simp only [Function.comp_def, lowerAscii_lowerAscii]

theorem toNativeChars_lowerAscii (tag : String) (cs : List Char) :
    toNativeChars (lowerAscii tag) cs = toNativeChars tag cs := by
  rw [toNativeChars, toNativeChars, scriptDigits?_lowerAscii]

/-- Tags that differ in capitals give the same format. -/
theorem formatWith?_congr {source : SymbolSource} (hs : source.IgnoresCase) (number : String)
    {tags others : List String} (h : tags.map lowerAscii = others.map lowerAscii) :
    formatWith? source number tags = formatWith? source number others := by
  have hf (tags : List String) : formatWith? source number (tags.map lowerAscii) =
      formatWith? source number tags := by
    have hc : source ∘ lowerAscii = source := funext hs
    have hn (cs : List Char) : toNativeChars ((tags.map lowerAscii).headD "") cs =
        toNativeChars (tags.headD "") cs := by
      cases tags with
      | nil => rfl
      | cons t tags => exact toNativeChars_lowerAscii t cs
    simp only [formatWith?, List.findSome?_map, hc, hn]
  rw [← hf, h, hf]

end Number
end WikiMessage
