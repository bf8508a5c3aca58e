import WikiMessage.Number.Script
import WikiMessage.Proofs.Text.Ascii
import WikiMessage.Text.Blank

/-!
# Scripts with digits of their own

A script has ten digits, no two alike, and none of them is a character of ASCII or a blank. So each
of them is read as the digit of ASCII in its place, and no other character is changed.
-/

namespace WikiMessage.Number

open WikiMessage.Text

theorem swapDigit_of_getElem? {digits : List Char} {c : Char} {i : Nat} (hn : digits.Nodup)
    (hi : digits[i]? = some c) (others : List Char) :
    swapDigit digits others c = others[i]?.getD c := by
  obtain ⟨hl, rfl⟩ := List.getElem?_eq_some_iff.mp hi
  have hx : digits.idxOf? digits[i] = some i := by
    refine List.idxOf?_eq_some_iff.mpr ⟨hl, rfl, fun j hj => ?_⟩
    exact List.pairwise_iff_getElem.mp hn j i (Nat.lt_trans hj hl) hl hj
  simp only [swapDigit, hx]

theorem swapDigit_of_not_mem {digits : List Char} {c : Char} (h : c ∉ digits)
    (others : List Char) : swapDigit digits others c = c := by
  simp only [swapDigit, List.idxOf?_eq_none_iff.mpr h]

theorem isAscii_of_isDigit {c : Char} (h : c.isDigit = true) : isAscii c = true :=
  isAscii_of_isAlphanum (by simp [Char.isAlphanum, h])

/-- What is known of each digit of ASCII. -/
structure LatinDigitFacts (c : Char) : Prop where
  getElem? : latinDigits[c.toNat - '0'.toNat]? = some c
  isBlank : isBlank c = false
  toLower : c.toLower = c

theorem latinDigitFacts {c : Char} (h : c.isDigit = true) : LatinDigitFacts c := by
  have hf : c.isDigit = true → latinDigits[c.toNat - '0'.toNat]? = some c ∧
      Text.isBlank c = false ∧ c.toLower = c :=
    forall_isAscii (P := fun c => c.isDigit = true → latinDigits[c.toNat - '0'.toNat]? = some c ∧
      Text.isBlank c = false ∧ c.toLower = c) (by decide +kernel) (isAscii_of_isDigit h)
  obtain ⟨hg, hb, hl⟩ := hf h
  exact ⟨hg, hb, hl⟩

structure IsScript (digits : List Char) : Prop where
  length : digits.length = latinDigits.length
  nodup : digits.Nodup
  not_isAscii : ∀ c ∈ digits, isAscii c = false
  not_isBlank : ∀ c ∈ digits, isBlank c = false

/-- Digits that follow one another outside ASCII and across no blank. -/
theorem isScript_of_run {c : Char} {cs : List Char}
    (hm : (c :: cs).map Char.toNat = List.range' c.toNat 10) (ha : isAscii c = false)
    (hb : CodeRanges.areDisjoint [(c.toNat, c.toNat + 9)] blankRanges = true) :
    IsScript (c :: cs) := by
  have hr {d : Char} (hd : d ∈ c :: cs) : c.toNat ≤ d.toNat ∧ d.toNat ≤ c.toNat + 9 := by
    have h := @List.mem_map_of_mem _ _ _ _ Char.toNat hd
    rw [hm, List.mem_range'_1] at h
    omega
  refine ⟨?_, ?_, fun d hd => ?_, fun d hd => ?_⟩
  · have hl := congrArg List.length hm
    rwa [List.length_map, List.length_range'] at hl
  · have hn : ((c :: cs).map Char.toNat).Nodup := hm ▸ List.nodup_range'
    exact (List.pairwise_map.mp hn).imp fun hne he => hne (congrArg _ he)
  · have hc : 128 ≤ c.toNat := Nat.le_of_not_lt (of_decide_eq_false ha)
    exact decide_eq_false (Nat.not_lt.mpr (Nat.le_trans hc (hr hd).1))
  · exact CodeRanges.contains_eq_false hb
      (CodeRanges.contains_iff.mpr ⟨_, List.mem_singleton_self _, hr hd⟩)

theorem isScript_of_languageDigits? {tag digits : String}
    (h : languageDigits? tag = some digits) : IsScript digits.toList := by
  have toList_eq {s : String} {cs : List Char} (he : s = String.ofList cs) : s.toList = cs := by
    rw [he, String.toList_ofList]
  unfold languageDigits? at h
  split at h
  case h_17 => cases h
  all_goals
    obtain rfl := Option.some.inj h
    rw [toList_eq rfl]
    exact isScript_of_run (by decide) (by decide) (by decide)

theorem isScript_of_scriptDigits? {tag digits : String} (h : scriptDigits? tag = some digits) :
    IsScript digits.toList := by
  obtain ⟨t, -, ht⟩ := List.exists_of_findSome?_eq_some h
  exact isScript_of_languageDigits? ht

/-- Digits of ASCII and of the script of a tag. -/
def isDigitOf (tag : String) (c : Char) : Bool :=
  c.isDigit || (scriptDigits? tag).any fun digits => digits.toList.contains c

/-- The character as it is when the script's digits are replaced by those of ASCII. -/
def latinChar (tag : String) (c : Char) : Char :=
  match scriptDigits? tag with
  | some digits => swapDigit digits.toList latinDigits c
  | none => c

theorem toLatinChars_eq_map (tag : String) (cs : List Char) :
    toLatinChars tag cs = cs.map (latinChar tag) := by
  unfold toLatinChars latinChar
  cases scriptDigits? tag with
  | none => exact (List.map_id' cs).symm
  | some digits => rfl

theorem isDigit_of_not_isDigitOf {tag : String} {c : Char} (h : isDigitOf tag c = false) :
    c.isDigit = false :=
  (Bool.or_eq_false_iff.mp h).1

theorem latinChar_of_not_isDigitOf {tag : String} {c : Char}
    (h : isDigitOf tag c = false) : latinChar tag c = c := by
  have hc := (Bool.or_eq_false_iff.mp h).2
  unfold latinChar
  split
  · rename_i digits hd
    rw [hd] at hc
    exact swapDigit_of_not_mem (by simpa using hc) _
  · rfl

theorem latinChar_of_isAscii {tag : String} {c : Char} (h : isAscii c = true) :
    latinChar tag c = c := by
  unfold latinChar
  split
  · rename_i digits hd
    refine swapDigit_of_not_mem (fun hm => ?_) _
    rw [(isScript_of_scriptDigits? hd).not_isAscii c hm] at h
    cases h
  · rfl

theorem latinChar_of_isDigit {tag : String} {c : Char} (h : c.isDigit = true) :
    latinChar tag c = c :=
  latinChar_of_isAscii (isAscii_of_isDigit h)

/-- A text of ASCII is in digits of ASCII already. -/
theorem toLatinChars_of_isAscii {tag : String} {cs : List Char}
    (h : ∀ c ∈ cs, isAscii c = true) : toLatinChars tag cs = cs := by
  rw [toLatinChars_eq_map, List.map_congr_left fun c hc => latinChar_of_isAscii (h c hc),
    List.map_id']

/-- The digit of a script in the place of a digit of ASCII is read as that one. -/
theorem latinChar_of_getElem? {tag digits : String} {i : Nat} {c d : Char}
    (hd : scriptDigits? tag = some digits) (hc : digits.toList[i]? = some c)
    (hi : latinDigits[i]? = some d) : latinChar tag c = d := by
  simp only [latinChar, hd]
  rw [swapDigit_of_getElem? (isScript_of_scriptDigits? hd).nodup hc, hi, Option.getD_some]

end WikiMessage.Number
