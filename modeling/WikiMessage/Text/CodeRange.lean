/-!
# Ranges of code points

A set of characters is kept as a list of ranges of code points, both ends included.
-/

namespace WikiMessage.Text

abbrev CodeRanges := List (Nat × Nat)

namespace CodeRanges

def contains (ranges : CodeRanges) (c : Char) : Bool :=
  ranges.any fun r => r.1 ≤ c.toNat && c.toNat ≤ r.2

theorem contains_iff {ranges : CodeRanges} {c : Char} :
    ranges.contains c = true ↔ ∃ r ∈ ranges, r.1 ≤ c.toNat ∧ c.toNat ≤ r.2 := by
  simp [contains]

/-- The code points of the ranges as the bits of one number, by which long lists are compared fast. -/
def bits (ranges : CodeRanges) : Nat :=
  ranges.foldr (fun r m => m ||| (1 <<< (r.2 + 1 - r.1) - 1) <<< r.1) 0

theorem testBit_bits {ranges : CodeRanges} {c : Char} (h : ranges.contains c = true) :
    ranges.bits.testBit c.toNat = true := by
  obtain ⟨r, hr, hc⟩ := contains_iff.mp h
  clear h
  induction ranges with
  | nil => cases hr
  | cons s ranges ih =>
    rw [bits, List.foldr_cons, Nat.testBit_or, Bool.or_eq_true]
    rcases List.mem_cons.mp hr with rfl | hr
    · right
      rw [Nat.testBit_shiftLeft, Nat.one_shiftLeft, Nat.testBit_two_pow_sub_one, Bool.and_eq_true,
        decide_eq_true_eq, decide_eq_true_eq]
      omega
    · exact .inl (ih hr)

def areDisjoint (rs ss : CodeRanges) : Bool := rs.bits &&& ss.bits == 0

theorem contains_eq_false {rs ss : CodeRanges} (h : rs.areDisjoint ss = true) {c : Char}
    (hc : rs.contains c = true) : ss.contains c = false := by
  rw [← Bool.not_eq_true]
  intro hs
  have hb := Nat.testBit_and rs.bits ss.bits c.toNat
  rw [testBit_bits hc, testBit_bits hs, beq_iff_eq.mp h, Nat.zero_testBit] at hb
  cases hb

end CodeRanges
end WikiMessage.Text
