import Mathlib.Data.List.Infix
import WikiMessage.Text.Affix

/-!
# Occurrences that do not overlap

A search from left to right goes on behind each occurrence that it finds. It passes over none, if no
end of the word is a beginning of it: then an occurrence never begins inside another one.
-/

namespace WikiMessage.Text

variable {word rest : List Char} {skip : Nat}

/-- No end of the word is a beginning of it, but for the word itself and the empty end. -/
def IsUnbordered (word : List Char) : Prop := ∀ k < word.length, 0 < k → ¬word.drop k <+: word

instance (word : List Char) : Decidable (IsUnbordered word) :=
  inferInstanceAs (Decidable (∀ k < word.length, 0 < k → ¬word.drop k <+: word))

/-- What is found behind an occurrence stands behind one. -/
theorem append_suffix_of_mem_restsBehind {cs : List Char} (h : rest ∈ restsBehind word skip cs) :
    word ++ rest <:+ cs := by
  induction cs generalizing skip with
  | nil => simp [restsBehind] at h
  | cons c cs ih =>
    cases skip with
    | succ skip => exact (ih h).trans (List.suffix_cons _ _)
    | zero =>
      rw [restsBehind] at h
      split at h
      next found hf =>
        rcases List.mem_cons.mp h with rfl | h
        · exact dropStart?_eq_some.mp hf ▸ List.suffix_refl _
        · exact (ih h).trans (List.suffix_cons _ _)
      next => exact (ih h).trans (List.suffix_cons _ _)

/-- An occurrence of an unbordered word ends before the next one begins. -/
theorem IsUnbordered.length_le (hw : IsUnbordered word) {before rest' : List Char}
    (hb : before ≠ []) (h : before ++ (word ++ rest) = word ++ rest') :
    word.length ≤ before.length := by
  rcases List.append_eq_append_iff.mp h with ⟨tail, ht, hr⟩ | ⟨tail, rfl, -⟩
  · -- what the word has behind `before` would be a beginning of it
    by_contra hl
    have hd : word.drop before.length = tail := by rw [ht, List.drop_left]
    have hp : tail <+: word := by
      refine List.prefix_of_prefix_length_le ⟨rest', hr.symm⟩ (List.prefix_append word rest) ?_
      rw [ht, List.length_append]
      exact Nat.le_add_left _ _
    exact hw before.length (Nat.lt_of_not_le hl) (List.length_pos_iff.mpr hb) (hd ▸ hp)
  · rw [List.length_append]
    exact Nat.le_add_right _ _

/-- Wherever an unbordered word stands, the search finds it. -/
theorem IsUnbordered.mem_restsBehind (hw : IsUnbordered word) (hn : word ≠ []) {before : List Char}
    (hs : skip ≤ before.length) : rest ∈ restsBehind word skip (before ++ (word ++ rest)) := by
  induction before generalizing skip with
  | nil =>
    obtain rfl := Nat.le_zero.mp hs
    obtain ⟨c, cs, rfl⟩ := List.exists_cons_of_ne_nil hn
    have hf : dropStart? (c :: cs) (c :: (cs ++ rest)) = some rest := dropStart?_eq_some.mpr rfl
    simp [restsBehind, hf]
  | cons c before ih =>
    cases skip with
    | succ skip => exact ih (Nat.le_of_succ_le_succ hs)
    | zero =>
      rw [List.cons_append, restsBehind]
      split
      next rest' hf =>
        have hl := hw.length_le (List.cons_ne_nil c before) (dropStart?_eq_some.mp hf)
        exact List.mem_cons_of_mem _ (ih (Nat.sub_le_of_le_add hl))
      next => exact ih (Nat.zero_le _)

theorem IsUnbordered.mem_restsBehind_iff (hw : IsUnbordered word) (hn : word ≠ [])
    {cs : List Char} : rest ∈ restsBehind word 0 cs ↔ word ++ rest <:+ cs := by
  refine ⟨append_suffix_of_mem_restsBehind, ?_⟩
  rintro ⟨before, rfl⟩
  exact hw.mem_restsBehind hn (Nat.zero_le _)

end WikiMessage.Text
