import WikiMessage.Locale.Fallback.Builtin
import WikiMessage.Locale.Identifier
import WikiMessage.Proofs.Locale.LetterCase
import WikiMessage.Proofs.Locale.Plain

/-!
# Tags that are identifiers

Every subtag of a well-formed identifier is a word of letters and digits. So no subtag is lost when
the tag is made normal, and the normal tag is the longest of its truncations.
-/

namespace WikiMessage.Locale

namespace Identifier

open Text

/-- All subtags are words of letters and digits. -/
def AreWords (subtags : List Subtag) : Prop := ∀ s ∈ subtags, isWord 1 s = true

variable {s : Subtag} {subtags rest : List Subtag}

theorem isWord_of_hasLength {least greatest : Nat} (hl : hasLength least greatest s = true)
    (ha : isAlphanumeric s = true) (h₁ : 1 ≤ least) (h₈ : greatest ≤ 8) : isWord 1 s = true := by
  simp only [hasLength, Bool.and_eq_true, decide_eq_true_eq] at hl
  simp only [isWord, hasLength, ha, Bool.and_eq_true, decide_eq_true_eq, and_true]
  omega

theorem isAlphanumeric_of_isAlphabetic (h : isAlphabetic s = true) : isAlphanumeric s = true := by
  refine List.all_eq_true.mpr fun c hc => ?_
  simp only [Char.isAlphanum, List.all_eq_true.mp h c hc, Bool.true_or]

theorem isWord_of_isLanguage (h : isLanguage s = true) : isWord 1 s = true := by
  obtain ⟨hl, ha⟩ := Bool.and_eq_true_iff.mp h
  exact isWord_of_hasLength hl (isAlphanumeric_of_isAlphabetic ha) (by decide) (by decide)

theorem isWord_of_isScript (h : isScript s = true) : isWord 1 s = true := by
  obtain ⟨hl, ha⟩ := Bool.and_eq_true_iff.mp h
  exact isWord_of_hasLength hl (isAlphanumeric_of_isAlphabetic ha) (by decide) (by decide)

theorem isWord_of_isRegion (h : isRegion s = true) : isWord 1 s = true := by
  rcases Bool.or_eq_true_iff.mp h with h | h
  · obtain ⟨hl, ha⟩ := Bool.and_eq_true_iff.mp h
    exact isWord_of_hasLength hl (isAlphanumeric_of_isAlphabetic ha) (by decide) (by decide)
  · obtain ⟨hl, hd⟩ := Bool.and_eq_true_iff.mp h
    refine isWord_of_hasLength hl (List.all_eq_true.mpr fun c hc => ?_) (by decide) (by decide)
    simp only [Char.isAlphanum, List.all_eq_true.mp hd c hc, Bool.or_true]

theorem isWord_of_isVariant (h : isVariant s = true) : isWord 1 s = true := by
  obtain ⟨ha, h⟩ := Bool.and_eq_true_iff.mp h
  rcases Bool.or_eq_true_iff.mp h with hl | h
  · exact isWord_of_hasLength hl ha (by decide) (by decide)
  · exact isWord_of_hasLength (Bool.and_eq_true_iff.mp h).1 ha (by decide) (by decide)

theorem isWord_of_isWord {least : Nat} (hn : 1 ≤ least) (h : isWord least s = true) :
    isWord 1 s = true := by
  obtain ⟨hl, ha⟩ := Bool.and_eq_true_iff.mp h
  exact isWord_of_hasLength hl ha hn (Nat.le_refl 8)

theorem isWord_of_isKey (h : isKey s = true) : isWord 1 s = true := by
  unfold isKey at h
  split at h
  · simp_all [isWord, hasLength, isAlphanumeric, Char.isAlphanum]
  · cases h

theorem isWord_of_isFieldKey (h : isFieldKey s = true) : isWord 1 s = true := by
  unfold isFieldKey at h
  split at h
  · simp_all [isWord, hasLength, isAlphanumeric, Char.isAlphanum]
  · cases h

theorem areWords_of_dropWhile {p : Subtag → Bool} (hp : ∀ s, p s = true → isWord 1 s = true)
    (h : AreWords (subtags.dropWhile p)) : AreWords subtags := by
  rw [← @List.takeWhile_append_dropWhile _ p subtags]
  exact List.forall_mem_append.mpr
    ⟨fun s hs => hp s (List.all_eq_true.mp List.all_takeWhile s hs), h⟩

theorem areWords_of_dropFirst {p : Subtag → Bool} (hp : ∀ s, p s = true → isWord 1 s = true)
    (h : AreWords (dropFirst p subtags)) : AreWords subtags := by
  cases subtags with
  | nil => exact h
  | cons s rest =>
    rw [dropFirst] at h
    split at h
    · rename_i hs
      exact List.forall_mem_cons.mpr ⟨hp s hs, h⟩
    · exact h

theorem areWords_of_afterVariants? {seen : List Subtag}
    (ha : afterVariants? seen subtags = some rest) (h : AreWords rest) : AreWords subtags := by
  induction subtags generalizing seen with
  | nil => simp [AreWords]
  | cons s subtags ih =>
    rw [afterVariants?] at ha
    split at ha
    · rename_i hv
      split at ha
      · cases ha
      · exact List.forall_mem_cons.mpr ⟨isWord_of_isVariant hv, ih ha⟩
    · cases ha
      exact h

theorem areWords_of_afterLanguage? (ha : afterLanguage? subtags = some rest) (h : AreWords rest) :
    AreWords subtags := by
  cases subtags with
  | nil => simp [AreWords]
  | cons s subtags =>
    rw [afterLanguage?] at ha
    split at ha
    · rename_i hl
      refine List.forall_mem_cons.mpr ⟨isWord_of_isLanguage hl, ?_⟩
      exact areWords_of_dropFirst (fun _ => isWord_of_isScript)
        (areWords_of_dropFirst (fun _ => isWord_of_isRegion) (areWords_of_afterVariants? ha h))
    · cases ha
      exact h

theorem areWords_of_go {inKeyword : Bool} (h : AreWords (afterKeywords.go inKeyword subtags)) :
    AreWords subtags := by
  induction subtags generalizing inKeyword with
  | nil => exact h
  | cons s subtags ih =>
    rw [afterKeywords.go] at h
    split at h
    · rename_i hk
      exact List.forall_mem_cons.mpr ⟨isWord_of_isKey hk, ih h⟩
    · split at h
      · rename_i hw
        refine List.forall_mem_cons.mpr ⟨?_, ih h⟩
        exact isWord_of_isWord (by decide) (Bool.and_eq_true_iff.mp hw).2
      · exact h

theorem areWords_of_afterFields? {position : FieldPosition}
    (ha : afterFields? position subtags = some rest) (h : AreWords rest) : AreWords subtags := by
  induction subtags generalizing position with
  | nil => simp [AreWords]
  | cons s subtags ih =>
    rw [afterFields?] at ha
    split at ha
    · rename_i hw
      refine List.forall_mem_cons.mpr ⟨?_, ih ha⟩
      exact isWord_of_isWord (by decide) (Bool.and_eq_true_iff.mp hw).2
    · split at ha
      · cases ha
      · split at ha
        · rename_i hk
          exact List.forall_mem_cons.mpr ⟨isWord_of_isFieldKey hk, ih ha⟩
        · cases ha
          exact h

theorem areWords_of_afterExtension? {mark : Char}
    (ha : afterExtension? mark subtags = some rest) (h : AreWords rest) : AreWords subtags := by
  obtain ⟨ha, -⟩ := Option.filter_eq_some_iff.mp ha
  split at ha
  · cases ha
    exact areWords_of_dropWhile (fun _ => isWord_of_isWord (by decide)) (areWords_of_go h)
  · split at ha
    · obtain ⟨fields, hl, hf⟩ := Option.bind_eq_some_iff.mp ha
      exact areWords_of_afterLanguage? hl (areWords_of_afterFields? hf h)
    · split at ha
      · cases ha
        exact areWords_of_dropWhile (fun _ => id) h
      · cases ha
        exact areWords_of_dropWhile (fun _ => isWord_of_isWord (by decide)) h

theorem areWords_of_areExtensions {bound : Nat} {seen : List Char}
    (h : areExtensions bound seen subtags = true) : AreWords subtags := by
  induction bound generalizing seen subtags with
  | zero =>
    cases subtags with
    | nil => simp [AreWords]
    | cons s subtags => simp [areExtensions] at h
  | succ bound ih =>
    unfold areExtensions at h
    split at h
    · simp [AreWords]
    · rename_i heq
      cases heq
      obtain ⟨hm, h⟩ := Bool.and_eq_true_iff.mp h
      split at h
      · rename_i ha
        refine List.forall_mem_cons.mpr ⟨?_, areWords_of_afterExtension? ha (ih h)⟩
        simp [isWord, hasLength, isAlphanumeric, (Bool.and_eq_true_iff.mp hm).1]
      · cases h
    · cases h

variable {tag : String}

theorem areWords_of_isWellFormed (h : isWellFormed tag = true) : AreWords (subtagsOf tag) := by
  obtain ⟨-, h⟩ := Bool.and_eq_true_iff.mp h
  split at h
  · rename_i ha
    exact areWords_of_afterLanguage? ha (areWords_of_areExtensions h)
  · cases h

theorem isAlphanum_of_isWellFormed (h : isWellFormed tag = true) :
    ∀ c ∈ tag.toList, c.isAlphanum = true ∨ c = '-' := by
  intro c hc
  have ha : c.toLower.isAlphanum = c.isAlphanum := isAlphanum_toLower c
  have hd : c.toLower = '-' ↔ c = '-' := toLower_eq_iff rfl
  by_contra hn
  obtain ⟨hna, hnd⟩ := not_or.mp hn
  rw [← hd] at hnd
  have hw : ['-'].intercalate (subtagsOf tag) = tag.toList.map Char.toLower :=
    List.intercalate_splitOn '-'
  -- the letter or digit is in one of the subtags between the separators
  refine not_mem_intercalate hnd (fun part hp hcp => hna ?_) (hw ▸ List.mem_map_of_mem hc)
  have hp := (Bool.and_eq_true_iff.mp (areWords_of_isWellFormed h part hp)).2
  rw [← ha]
  exact List.all_eq_true.mp hp _ hcp

theorem isLocale_of_isWellFormed (h : isWellFormed tag = true) :
    Catalog.Store.isLocale tag = true := by
  refine isLocale_iff.mpr ⟨?_, fun c hc => ?_⟩
  · rintro rfl
    cases h
  · rcases isAlphanum_of_isWellFormed h c hc with ha | rfl
    · simp only [isLocaleChar, ha, Bool.true_or]
    · rfl

/-- An identifier is made normal by small letters alone. -/
theorem normalize_of_isWellFormed (h : isWellFormed tag = true) :
    normalize tag = lowerAscii tag := by
  rw [← String.toList_inj, toList_normalize, toList_lowerAscii,
    normalizeChars_of_isLocaleChar (isLocale_iff.mp (isLocale_of_isWellFormed h)).2]
  refine List.map_congr_left fun c hc => ?_
  have hu : c.toLower = '_' ↔ c = '_' := toLower_eq_iff rfl
  rw [hyphen, if_neg]
  rw [hu]
  rintro rfl
  rcases isAlphanum_of_isWellFormed h '_' hc with ha | ha <;> cases ha

/-- The normal tag is the first to try for itself. -/
theorem truncations_normalize_of_isWellFormed (h : isWellFormed tag = true) :
    ∃ shorter, truncations (normalize tag) = normalize tag :: shorter := by
  have hp := isPlain_normalize (isLocale_of_isWellFormed h)
  rw [hp.truncations_eq]
  refine hp.normalTruncations_eq_cons fun hm => ?_
  rw [normalize_of_isWellFormed h, toList_lowerAscii] at hm
  cases areWords_of_isWellFormed h [] hm

theorem builtinChain_of_isWellFormed (h : isWellFormed tag = true) :
    ∃ others, builtinChain (normalize tag) = normalize tag :: others := by
  obtain ⟨shorter, ht⟩ := truncations_normalize_of_isWellFormed h
  rw [builtinChain, FallbackTable.chain, ht]
  exact ⟨_, rfl⟩

end Identifier

end WikiMessage.Locale
