import WikiMessage.Text.Blank
import WikiMessage.Text.LowerCase

/-!
# Letters of ASCII

The tables of small letters say of ASCII what is known without them, so that names of such letters
can be compared either way.
-/

namespace WikiMessage.Text

open LowerCase

def isAscii (c : Char) : Bool := c.toNat < 128

theorem forall_isAscii {P : Char → Prop} (h : ∀ n, n < 128 → P (Char.ofNat n)) {c : Char}
    (hc : isAscii c = true) : P c := by
  have hn := h c.toNat (of_decide_eq_true hc)
  rwa [Char.ofNat_toNat] at hn

theorem isAlpha_iff {c : Char} :
    c.isAlpha = true ↔ (65 ≤ c.toNat ∧ c.toNat ≤ 90) ∨ (97 ≤ c.toNat ∧ c.toNat ≤ 122) := by
  delta Char.isAlpha Char.isUpper Char.isLower
  simp only [Bool.or_eq_true, Bool.and_eq_true, decide_eq_true_eq, ge_iff_le,
    UInt32.le_iff_toNat_le]
  rfl

theorem isDigit_iff {c : Char} : c.isDigit = true ↔ 48 ≤ c.toNat ∧ c.toNat ≤ 57 := by
  delta Char.isDigit
  simp only [Bool.and_eq_true, decide_eq_true_eq, ge_iff_le, UInt32.le_iff_toNat_le]
  rfl

theorem isAlphanum_iff {c : Char} : c.isAlphanum = true ↔
    ((65 ≤ c.toNat ∧ c.toNat ≤ 90) ∨ (97 ≤ c.toNat ∧ c.toNat ≤ 122)) ∨
      (48 ≤ c.toNat ∧ c.toNat ≤ 57) := by
  delta Char.isAlphanum
  rw [Bool.or_eq_true, isAlpha_iff, isDigit_iff]

theorem isAscii_of_isAlphanum {c : Char} (h : c.isAlphanum = true) : isAscii c = true := by
  have hc := isAlphanum_iff.mp h
  exact decide_eq_true (by omega)

/-- The characters of ASCII that are seen are no blanks. -/
theorem isBlank_of_isSeen {c : Char} (h : 0x21 ≤ c.toNat ∧ c.toNat ≤ 0x7e) : isBlank c = false :=
  @CodeRanges.contains_eq_false [(0x21, 0x7e)] blankRanges (by decide) c
    (CodeRanges.contains_iff.mpr ⟨_, List.mem_singleton_self _, h⟩)

theorem isBlank_of_isAlphanum {c : Char} (h : c.isAlphanum = true) : isBlank c = false := by
  have hc := isAlphanum_iff.mp h
  exact isBlank_of_isSeen (by omega)

theorem toNat_toLower (c : Char) :
    c.toLower.toNat = if 65 ≤ c.toNat ∧ c.toNat ≤ 90 then c.toNat + 32 else c.toNat := by
  delta Char.toLower
  split
  · rename_i h
    obtain ⟨hl, hu⟩ := h
    simp only [ge_iff_le, UInt32.le_iff_toNat_le] at hl hu
    change 65 ≤ c.toNat at hl
    change c.toNat ≤ 90 at hu
    rw [if_pos ⟨hl, hu⟩]
    change (c.val + 32).toNat = _
    rw [UInt32.toNat_add]
    change (c.toNat + 32) % 2 ^ 32 = _
    omega
  · rename_i h
    simp only [ge_iff_le, UInt32.le_iff_toNat_le] at h
    exact (if_neg h).symm

theorem toLower_eq_self {c : Char} (h : ¬(65 ≤ c.toNat ∧ c.toNat ≤ 90)) : c.toLower = c :=
  Char.toNat_inj.mp ((toNat_toLower c).trans (if_neg h))

theorem toLower_toLower (c : Char) : c.toLower.toLower = c.toLower := by
  refine toLower_eq_self ?_
  rw [toNat_toLower]
  split <;> omega

theorem isAscii_toLower (c : Char) : isAscii c.toLower = isAscii c := by
  refine decide_eq_decide.mpr ?_
  rw [toNat_toLower]
  split <;> omega

/-- What is true of no letter is as true of a character as of its small letter. -/
theorem apply_toLower {p : Char → Bool} (h : ∀ c, c.isAlpha = true → p c = false) (c : Char) :
    p c.toLower = p c := by
  by_cases hc : 65 ≤ c.toNat ∧ c.toNat ≤ 90
  · have hl : c.toLower.isAlpha = true := by
      rw [isAlpha_iff, toNat_toLower, if_pos hc]
      omega
    rw [h _ hl, h c (isAlpha_iff.mpr (.inl hc))]
  · rw [toLower_eq_self hc]

theorem toLower_eq_iff {c d : Char} (h : d.isAlpha = false) : c.toLower = d ↔ c = d := by
  refine decide_eq_decide.mp (apply_toLower (p := fun c => decide (c = d)) (fun c hc => ?_) c)
  refine decide_eq_false ?_
  rintro rfl
  rw [h] at hc
  cases hc

theorem isAlphanum_toLower (c : Char) : c.toLower.isAlphanum = c.isAlphanum := by
  rw [Bool.eq_iff_iff, isAlphanum_iff, isAlphanum_iff, toNat_toLower]
  split <;> omega

/-- The capitals of ASCII are the first run of the table, and all others lie above ASCII. -/
theorem find?_caseRuns {n : Nat} (hn : n < 128) :
    caseRuns.find? (·.covers n) = (caseRuns.take 1).find? (·.covers n) := by
  have hr : (caseRuns.drop 1).find? (·.covers n) = none := by
    have hl : ∀ r ∈ caseRuns.drop 1, 128 ≤ r.first := by decide +kernel
    rw [List.find?_eq_none]
    intro r hm hc
    have := hl r hm
    simp only [CaseRun.covers, Bool.and_eq_true, decide_eq_true_eq] at hc
    omega
  have hs : caseRuns.find? (·.covers n) =
      (caseRuns.take 1 ++ caseRuns.drop 1).find? (·.covers n) := by
    rw [List.take_append_drop]
  rw [hs, List.find?_append, hr, Option.or_none]

theorem lowerChar_of_isAscii {c : Char} (h : isAscii c = true) : lowerChar c = [c.toLower] := by
  have hi : c ≠ '\u0130' := by
    rintro rfl
    cases h
  have ht : caseRuns.take 1 = [⟨0x41, 0x5a, 1, 0x61⟩] := rfl
  have hr : CaseRun.covers ⟨0x41, 0x5a, 1, 0x61⟩ c.toNat = true ↔
      65 ≤ c.toNat ∧ c.toNat ≤ 90 := by
    simp [CaseRun.covers, Nat.mod_one]
  rw [lowerChar, if_neg hi, find?_caseRuns (of_decide_eq_true h), ht, List.find?_singleton]
  by_cases hc : 65 ≤ c.toNat ∧ c.toNat ≤ 90
  · have hv : (0x61 + (c.toNat - 0x41)).isValidChar := .inl (by omega)
    rw [if_pos (hr.mpr hc)]
    refine congrArg (· :: []) (Char.toNat_inj.mp ?_)
    rw [toNat_toLower, if_pos hc, Char.ofNat, dif_pos hv]
    change 0x61 + (c.toNat - 0x41) = c.toNat + 32
    omega
  · rw [if_neg (mt hr.mp hc), toLower_eq_self hc]

theorem lowerFrom_of_isAscii {cs : List Char} (h : ∀ c ∈ cs, isAscii c = true) (before : Bool) :
    lowerFrom before cs = cs.map Char.toLower := by
  induction cs generalizing before with
  | nil => rfl
  | cons c cs ih =>
    obtain ⟨hc, ht⟩ := List.forall_mem_cons.mp h
    have hs : c ≠ 'Σ' := by
      rintro rfl
      cases hc
    rw [lowerFrom, if_neg hs, lowerChar_of_isAscii hc, ih ht]
    rfl

theorem lower_of_isAscii {s : String} (h : ∀ c ∈ s.toList, isAscii c = true) :
    lower s = lowerAscii s := by
  rw [lower, lowerAscii, lowerChars, lowerFrom_of_isAscii h]

theorem lowerAscii_lowerAscii (s : String) : lowerAscii (lowerAscii s) = lowerAscii s := by
  have h : Char.toLower ∘ Char.toLower = Char.toLower := funext toLower_toLower
  rw [lowerAscii, toList_lowerAscii, List.map_map, h]
  rfl

/-- Names of ASCII letters have the same small letters with and without tables. -/
theorem lower_eq_lowerAscii {s : String} (h : ∀ c ∈ (lowerAscii s).toList, isAscii c = true) :
    lower s = lowerAscii s := by
  rw [lower, lowerAscii, lowerChars, lowerFrom_of_isAscii]
  intro c hc
  rw [← isAscii_toLower]
  refine h _ ?_
  rw [toList_lowerAscii]
  exact List.mem_map_of_mem hc

/-- A character at the end becomes its small letter, whatever stands before it. -/
theorem lowerFrom_concat (before : Bool) (cs : List Char) {c : Char} (h : c ≠ 'Σ') :
    ∃ start, lowerFrom before (cs ++ [c]) = start ++ lowerChar c := by
  induction cs generalizing before with
  | nil => exact ⟨[], by simp [lowerFrom, h]⟩
  | cons d cs ih =>
    obtain ⟨start, hs⟩ := ih (if isCaseIgnorable d then before else isCased d)
    exact ⟨_, by rw [List.cons_append, lowerFrom, hs, ← List.append_assoc]⟩

end WikiMessage.Text
