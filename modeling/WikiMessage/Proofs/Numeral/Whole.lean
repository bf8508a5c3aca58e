import WikiMessage.Numeral.Double

/-!
# Whole numbers of double precision

A whole number of at most 53 binary digits is a number of double precision itself: nothing is lost
when it is rounded to one.
-/

namespace WikiMessage.Numeral

theorem roundHalfEven_mul (q : Nat) {den : Nat} (h : 0 < den) :
    roundHalfEven (q * den) den = q := by
  have hd : q * den / den = q := Nat.mul_div_cancel q h
  have hm : q * den % den = 0 := Nat.mul_mod_left q den
  simp only [roundHalfEven, hd, hm]
  rw [if_neg]
  simp
  omega

theorem log2_mul_twoTo {n : Nat} (h : n ≠ 0) (k : Nat) : (n * twoTo k).log2 = n.log2 + k := by
  have hn : n * twoTo k ≠ 0 := Nat.mul_ne_zero h (Nat.ne_of_gt (twoTo_pos k))
  have hl : twoTo (n.log2 + k) ≤ n * twoTo k := by
    rw [twoTo_add]
    exact Nat.mul_le_mul_right _ (Nat.log2_self_le h)
  have hu : n * twoTo k < twoTo (n.log2 + k + 1) := by
    rw [Nat.add_right_comm, twoTo_add]
    exact Nat.mul_lt_mul_of_pos_right Nat.lt_log2_self (twoTo_pos k)
  have hl' : n.log2 + k ≤ (n * twoTo k).log2 := (Nat.le_log2 hn).mpr hl
  have hu' : (n * twoTo k).log2 < n.log2 + k + 1 := (Nat.log2_lt hn).mpr hu
  omega

namespace Double

/-- The magnitude of a rank that is given by 53 binary digits and a shift. -/
theorem units_of_significand {significand : Nat} (hl : twoTo fractionBits ≤ significand)
    (hu : significand < twoTo (fractionBits + 1)) (shift : Nat) :
    units (shift * twoTo fractionBits + significand) = significand * twoTo shift := by
  obtain ⟨fraction, rfl⟩ := Nat.exists_eq_add_of_le hl
  have hf : fraction < twoTo fractionBits := by
    rw [twoTo_succ] at hu
    omega
  have hr : shift * twoTo fractionBits + (twoTo fractionBits + fraction) =
      fraction + twoTo fractionBits * (shift + 1) := by
    rw [Nat.mul_succ, Nat.mul_comm]
    omega
  have hd : (fraction + twoTo fractionBits * (shift + 1)) / twoTo fractionBits = shift + 1 := by
    rw [Nat.add_mul_div_left _ _ (twoTo_pos _), Nat.div_eq_of_lt hf, Nat.zero_add]
  have hm : (fraction + twoTo fractionBits * (shift + 1)) % twoTo fractionBits = fraction := by
    rw [Nat.add_mul_mod_self_left, Nat.mod_eq_of_lt hf]
  have hn : ¬fraction + twoTo fractionBits * (shift + 1) < twoTo fractionBits := by
    rw [Nat.mul_succ]
    omega
  rw [hr, units, if_neg hn, hd, hm, Nat.add_sub_cancel]

/-- The significand of a whole number of at most 53 binary digits is the number itself, moved until
there are 53 of them. -/
theorem nearestRank_of_lt {n : Nat} (h0 : n ≠ 0) (h : n < twoTo (fractionBits + 1)) :
    nearestRank n 1 = (n.log2 + leastPower - fractionBits) * twoTo fractionBits +
      n * twoTo (fractionBits - n.log2) := by
  have hlog : n.log2 < fractionBits + 1 := (Nat.log2_lt h0).mpr h
  have hbits : fractionBits ≤ leastPower := by decide
  have hshift : leastPower = (fractionBits - n.log2) + (n.log2 + leastPower - fractionBits) := by
    omega
  have hs : n * twoTo leastPower =
      n * twoTo (fractionBits - n.log2) * twoTo (n.log2 + leastPower - fractionBits) := by
    rw [Nat.mul_assoc, ← twoTo_add, ← hshift]
  simp only [nearestRank, Nat.div_one, Nat.one_mul, log2_mul_twoTo h0]
  rw [hs, roundHalfEven_mul _ (twoTo_pos _)]

/-- Moved digits fill the significand. -/
theorem significand_bounds {n : Nat} (h0 : n ≠ 0) (h : n < twoTo (fractionBits + 1)) :
    twoTo fractionBits ≤ n * twoTo (fractionBits - n.log2) ∧
      n * twoTo (fractionBits - n.log2) < twoTo (fractionBits + 1) := by
  have hlog : n.log2 < fractionBits + 1 := (Nat.log2_lt h0).mpr h
  obtain ⟨missing, hm⟩ := Nat.exists_eq_add_of_le (Nat.le_of_lt_succ hlog)
  rw [hm, Nat.add_sub_cancel_left, Nat.add_right_comm, twoTo_add, twoTo_add]
  exact ⟨Nat.mul_le_mul_right _ (Nat.log2_self_le h0),
    Nat.mul_lt_mul_of_pos_right Nat.lt_log2_self (twoTo_pos _)⟩

/-- The rank of a whole number of at most 53 binary digits. -/
theorem exists_nearestRank {n : Nat} (h0 : n ≠ 0) (h : n < twoTo (fractionBits + 1)) :
    nearestRank n 1 < rankBound ∧ units (nearestRank n 1) = n * twoTo leastPower := by
  have hlog : n.log2 < fractionBits + 1 := (Nat.log2_lt h0).mpr h
  have hbits : fractionBits ≤ leastPower := by decide
  obtain ⟨hl, hu⟩ := significand_bounds h0 h
  rw [nearestRank_of_lt h0 h]
  constructor
  · have hb : (n.log2 + leastPower - fractionBits) * twoTo fractionBits ≤
        leastPower * twoTo fractionBits := Nat.mul_le_mul_right _ (by omega)
    have hc : leastPower * twoTo fractionBits + twoTo fractionBits * 2 ≤
        2047 * twoTo fractionBits := by decide
    rw [rankBound]
    rw [twoTo_succ] at hu
    omega
  · rw [units_of_significand hl hu, Nat.mul_assoc, ← twoTo_add]
    have hm : (fractionBits - n.log2) + (n.log2 + leastPower - fractionBits) = leastPower := by omega
    rw [hm]

theorem toInt?_ofRatio {n : Nat} (h0 : n ≠ 0) (h : n < twoTo (fractionBits + 1)) (negative : Bool) :
    (ofRatio negative n 1).toInt? = some (if negative then -(n : Int) else n) := by
  obtain ⟨hr, hu⟩ := exists_nearestRank h0 h
  have hm : n * twoTo leastPower % twoTo leastPower = 0 := Nat.mul_mod_left _ _
  have hd : n * twoTo leastPower / twoTo leastPower = n := Nat.mul_div_cancel _ (twoTo_pos _)
  rw [ofRatio, ofRank, dif_pos hr]
  simp only [toInt?, hu, hm, hd, if_true]

/-- A whole number without a fraction is the number that it is written as. -/
theorem toInt?_ofDecimal {n : Nat} (h : n < twoTo (fractionBits + 1)) (negative : Bool) :
    (ofDecimal negative n 0).toInt? = some (if negative then -(n : Int) else n) := by
  rcases Nat.eq_zero_or_pos n with rfl | hn
  · cases negative <;> decide +kernel
  · rw [ofDecimal, if_neg (Nat.ne_of_gt hn), if_neg (by decide), if_pos (Int.le_refl 0)]
    have ht : n * tenTo (0 : Int).toNat = n := Nat.mul_one n
    rw [ht, toInt?_ofRatio (Nat.ne_of_gt hn) h]

theorem isFinite_of_toInt? {x : Double} {n : Int} (h : x.toInt? = some n) : x.isFinite = true := by
  cases x with
  | finite negative rank => rfl
  | _ => cases h

end Double
end WikiMessage.Numeral
