import WikiMessage.Proofs.Text.Boundary

/-!
# Small letters stay as they are

No small letter of the table is a capital of it. So a text in small letters has no capital left, and
a name may be made small any number of times.
-/

namespace WikiMessage.Text

namespace LowerCase

namespace CaseRun

/-- As many code points from `start` on as the run has capitals, at its step. -/
def rangesFrom (r : CaseRun) (start : Nat) : CodeRanges :=
  if r.step = 1 then [(start, start + (r.last - r.first))]
  else
    (List.range ((r.last - r.first) / r.step + 1)).map fun k =>
      (start + r.step * k, start + r.step * k)

theorem contains_rangesFrom {r : CaseRun} {n start : Nat} (h : r.covers n = true) {c : Char}
    (hc : c.toNat = start + (n - r.first)) : (r.rangesFrom start).contains c = true := by
  obtain ⟨⟨hl, hu⟩, hm⟩ := covers_iff.mp h
  rw [CodeRanges.contains_iff, hc]
  unfold rangesFrom
  split
  · exact ⟨_, List.mem_singleton_self _, by omega⟩
  · have hk : (n - r.first) / r.step ≤ (r.last - r.first) / r.step :=
      Nat.div_le_div_right (Nat.sub_le_sub_right hu r.first)
    refine ⟨_, List.mem_map.mpr ⟨(n - r.first) / r.step, List.mem_range.mpr (by omega), rfl⟩, ?_⟩
    rw [Nat.mul_div_cancel' (Nat.dvd_of_mod_eq_zero hm)]
    exact ⟨Nat.le_refl _, Nat.le_refl _⟩

end CaseRun

/-- The capitals, the I with a dot among them. -/
def capitals : CodeRanges := (0x130, 0x130) :: caseRuns.flatMap fun r => r.rangesFrom r.first

/-- What capitals become, by the table and beside it, and the first character, which stands for code
points that no character has. -/
def smalls : CodeRanges :=
  [(0x0, 0x0), (0x69, 0x69), (0x307, 0x307), (0x3c2, 0x3c3)] ++
    caseRuns.flatMap fun r => r.rangesFrom r.target

theorem contains_capitals {r : CaseRun} {c : Char} (hr : r ∈ caseRuns)
    (h : r.covers c.toNat = true) : capitals.contains c = true := by
  obtain ⟨⟨hl, -⟩, -⟩ := covers_iff.mp h
  obtain ⟨p, hp, hc⟩ :=
    CodeRanges.contains_iff.mp (CaseRun.contains_rangesFrom h (Nat.add_sub_cancel' hl).symm)
  exact CodeRanges.contains_iff.mpr
    ⟨p, List.mem_cons_of_mem _ (List.mem_flatMap.mpr ⟨r, hr, hp⟩), hc⟩

theorem contains_smalls {r : CaseRun} {n : Nat} {c : Char} (hr : r ∈ caseRuns)
    (h : r.covers n = true) (hc : c.toNat = r.target + (n - r.first)) :
    smalls.contains c = true := by
  obtain ⟨p, hp, hc⟩ := CodeRanges.contains_iff.mp (CaseRun.contains_rangesFrom h hc)
  exact CodeRanges.contains_iff.mpr
    ⟨p, List.mem_append_right _ (List.mem_flatMap.mpr ⟨r, hr, hp⟩), hc⟩

theorem contains_capitals_of_contains_smalls {c : Char} (h : smalls.contains c = true) :
    capitals.contains c = false :=
  CodeRanges.contains_eq_false (by decide +kernel) h

theorem lowerChar_of_contains_smalls {c : Char} (h : smalls.contains c = true) :
    lowerChar c = [c] := by
  have hc := contains_capitals_of_contains_smalls h
  have hi : c ≠ '\u0130' := by
    rintro rfl
    cases hc
  have hn : caseRuns.find? (·.covers c.toNat) = none := by
    rw [List.find?_eq_none]
    intro r hr hcov
    rw [contains_capitals hr hcov] at hc
    cases hc
  rw [lowerChar, if_neg hi, hn]

/-- A small letter has no other small letter. -/
theorem lowerChar_of_mem_lowerChar {c d : Char} (h : d ∈ lowerChar c) : lowerChar d = [d] := by
  unfold lowerChar at h
  split at h
  · simp only [List.mem_cons, List.not_mem_nil, or_false] at h
    rcases h with rfl | rfl <;> exact lowerChar_of_contains_smalls rfl
  · rename_i hi
    split at h
    · rename_i r hr
      obtain rfl := List.mem_singleton.mp h
      apply lowerChar_of_contains_smalls
      rcases toNat_ofNat_or (r.target + (c.toNat - r.first)) with ht | ht
      · have hc := @List.find?_some _ (fun r : CaseRun => r.covers c.toNat) _ _ hr
        exact contains_smalls (List.mem_of_find?_eq_some hr) hc ht
      · rw [ht]
        rfl
    · rename_i hr
      obtain rfl := List.mem_singleton.mp h
      rw [lowerChar, if_neg hi, hr]

/-- Of a character in its place come characters that have no other small letters. -/
theorem lowerChar_of_mem_smallForm {before : Bool} {c d : Char} {cs : List Char}
    (h : d ∈ smallForm before c cs) : lowerChar d = [d] := by
  unfold smallForm at h
  split at h
  · obtain rfl := List.mem_singleton.mp h
    split <;> exact lowerChar_of_contains_smalls rfl
  · exact lowerChar_of_mem_lowerChar h

theorem lowerFrom_eq_self {before : Bool} {cs : List Char} (h : ∀ c ∈ cs, lowerChar c = [c]) :
    lowerFrom before cs = cs := by
  induction cs generalizing before with
  | nil => rfl
  | cons c cs ih =>
    obtain ⟨hc, ht⟩ := List.forall_mem_cons.mp h
    -- the capital sigma is in the table, so it is not its own small letter
    have hs : c ≠ 'Σ' := by
      rintro rfl
      exact absurd hc (by decide +kernel)
    rw [lowerFrom, if_neg hs, hc, ih ht, List.singleton_append]

end LowerCase

open LowerCase

theorem lowerChar_of_mem_lowerChars {cs : List Char} {d : Char} (h : d ∈ lowerChars cs) :
    lowerChar d = [d] := by
  obtain ⟨c, -, before, after, hs⟩ := mem_lowerFrom h
  exact lowerChar_of_mem_smallForm hs

theorem lowerChars_lowerChars (cs : List Char) : lowerChars (lowerChars cs) = lowerChars cs :=
  lowerFrom_eq_self fun _ => lowerChar_of_mem_lowerChars

theorem lower_lower (s : String) : lower (lower s) = lower s := by
  rw [lower, toList_lower, lowerChars_lowerChars]
  rfl

end WikiMessage.Text
