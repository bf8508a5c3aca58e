import WikiMessage.Proofs.Numeral.Whole

/-!
# Whole numbers that are told apart

Whole numbers of more than 53 binary digits share the numbers of double precision: of neighbours
one is exact and others are rounded to it. A whole number has a number of double precision to itself
if it has no more than 53 digits, or if it has 54 and is twice an odd number: then its significand is
odd, and what lies between two significands is rounded to the even one.
-/

namespace WikiMessage.Numeral

theorem roundHalfEven_mul_add (q : Nat) {den r : Nat} (h : r < den) :
    roundHalfEven (den * q + r) den =
      if den < 2 * r ∨ 2 * r = den ∧ q % 2 = 1 then q + 1 else q := by
  have hd : (den * q + r) / den = q := by
    rw [Nat.mul_add_div (Nat.zero_lt_of_lt h), Nat.div_eq_of_lt h, Nat.add_zero]
  have hm : (den * q + r) % den = r := by rw [Nat.mul_add_mod, Nat.mod_eq_of_lt h]
  simp [roundHalfEven, hd, hm]

theorem roundHalfEven_mul_right (num den : Nat) {c : Nat} (h : 0 < c) :
    roundHalfEven (num * c) (den * c) = roundHalfEven num den := by
  have hg : 2 * (num % den * c) > den * c ↔ 2 * (num % den) > den := by
    rw [← Nat.mul_assoc]
    exact Nat.mul_lt_mul_right h
  have he : 2 * (num % den * c) = den * c ↔ 2 * (num % den) = den := by
    rw [← Nat.mul_assoc]
    exact Nat.mul_left_inj (Nat.ne_of_gt h)
  simp only [roundHalfEven, Nat.mul_div_mul_right _ _ h, Nat.mul_mod_mul_right, hg, he]

theorem div_le_roundHalfEven (num den : Nat) : num / den ≤ roundHalfEven num den := by
  simp only [roundHalfEven]
  split
  · exact Nat.le_succ _
  · exact Nat.le_refl _

/-- With four steps from one quotient to the next, and in part with two, some neighbour is rounded
to the same quotient. -/
theorem exists_roundHalfEven_eq {den q r : Nat} (hr : r < den)
    (h : 4 ≤ den ∨ den = 2 ∧ (q % 2 = 0 ∨ r = 1)) :
    ∃ m, m ≠ den * q + r ∧ den * q ≤ m ∧ m ≤ den * (q + 1) ∧
      roundHalfEven m den = roundHalfEven (den * q + r) den := by
  rw [Nat.mul_succ]
  by_cases hup : den < 2 * r ∨ 2 * r = den ∧ q % 2 = 1
  · refine ⟨den * q + (r + 1), by omega, by omega, by omega, ?_⟩
    rw [roundHalfEven_mul_add q hr, if_pos hup]
    rcases Nat.lt_or_eq_of_le (Nat.succ_le_of_lt hr) with hs | hs
    · rw [roundHalfEven_mul_add q hs, if_pos (by omega)]
    · have hm : den * q + (r + 1) = (q + 1) * den := by
        rw [← Nat.succ_eq_add_one r, hs, Nat.succ_mul, Nat.mul_comm]
      rw [hm, roundHalfEven_mul _ (Nat.zero_lt_of_lt hr)]
  · cases r with
    | zero =>
      refine ⟨den * q + 1, by omega, by omega, by omega, ?_⟩
      rw [roundHalfEven_mul_add q hr, if_neg hup, roundHalfEven_mul_add q (by omega),
        if_neg (by omega)]
    | succ r =>
      refine ⟨den * q + r, by omega, by omega, by omega, ?_⟩
      rw [roundHalfEven_mul_add q hr, if_neg hup, roundHalfEven_mul_add q (by omega),
        if_neg (by omega)]

namespace Double

/-- A number between two powers of two that is at least `fractionBits` binary digits long is rounded
by the digits that are too many. The power at the upper end has the same rank either way. -/
theorem nearestRank_eq {n k : Nat} (hl : twoTo (fractionBits + k) ≤ n)
    (hu : n ≤ twoTo (fractionBits + k + 1)) :
    nearestRank n 1 =
      (k + leastPower) * twoTo fractionBits + roundHalfEven n (twoTo k) := by
  have hlt {n k : Nat} (hl : twoTo (fractionBits + k) ≤ n)
      (hu : n < twoTo (fractionBits + k + 1)) : nearestRank n 1 =
        (k + leastPower) * twoTo fractionBits + roundHalfEven n (twoTo k) := by
    have h0 : n ≠ 0 := Nat.ne_of_gt (Nat.lt_of_lt_of_le (twoTo_pos _) hl)
    have hlog : n.log2 = fractionBits + k := by
      have hl' : fractionBits + k ≤ n.log2 := (Nat.le_log2 h0).mpr hl
      have hu' : n.log2 < fractionBits + k + 1 := (Nat.log2_lt h0).mpr hu
      omega
    have hs : fractionBits + k + leastPower - fractionBits = k + leastPower := by omega
    simp only [nearestRank, Nat.div_one, Nat.one_mul, log2_mul_twoTo h0, hlog, hs]
    rw [twoTo_add k, roundHalfEven_mul_right _ _ (twoTo_pos _)]
  rcases Nat.lt_or_eq_of_le hu with hu | rfl
  · exact hlt hl hu
  · have hp := twoTo_pos (fractionBits + k + 1)
    have hs : twoTo (fractionBits + k + 1) < twoTo (fractionBits + (k + 1) + 1) := by
      rw [twoTo_succ (fractionBits + (k + 1)), ← Nat.add_assoc]
      omega
    have hn := hlt (n := twoTo (fractionBits + k + 1)) (k := k + 1) (Nat.le_refl _) hs
    have h1 : twoTo (fractionBits + k + 1) = twoTo fractionBits * twoTo (k + 1) := by
      rw [← twoTo_add, Nat.add_assoc]
    have h2 : twoTo (fractionBits + k + 1) = (twoTo fractionBits * 2) * twoTo k := by
      rw [h1, twoTo_succ, Nat.mul_comm (twoTo k) 2, Nat.mul_assoc]
    rw [hn, h1, roundHalfEven_mul _ (twoTo_pos _), ← h1, h2, roundHalfEven_mul _ (twoTo_pos _)]
    have hk : (k + 1 + leastPower) * twoTo fractionBits =
        (k + leastPower) * twoTo fractionBits + twoTo fractionBits := by
      rw [Nat.add_right_comm, Nat.succ_mul]
    omega

/-- Ranks from a power of two on. -/
theorem le_nearestRank {n k : Nat} (h : twoTo (fractionBits + k) ≤ n) :
    (k + leastPower + 1) * twoTo fractionBits ≤ nearestRank n 1 := by
  have h0 : n ≠ 0 := Nat.ne_of_gt (Nat.lt_of_lt_of_le (twoTo_pos _) h)
  have hlog : fractionBits + k ≤ n.log2 := (Nat.le_log2 h0).mpr h
  obtain ⟨j, hj⟩ := Nat.exists_eq_add_of_le hlog
  have hl : twoTo (fractionBits + (k + j)) ≤ n := by
    rw [← Nat.add_assoc, ← hj]
    exact Nat.log2_self_le h0
  have hu : n ≤ twoTo (fractionBits + (k + j) + 1) := by
    rw [← Nat.add_assoc, ← hj]
    exact Nat.le_of_lt Nat.lt_log2_self
  have hq : twoTo fractionBits ≤ roundHalfEven n (twoTo (k + j)) := by
    refine Nat.le_trans ?_ (div_le_roundHalfEven _ _)
    rwa [Nat.le_div_iff_mul_le (twoTo_pos _), ← twoTo_add]
  have hk : (k + leastPower) * twoTo fractionBits ≤ (k + j + leastPower) * twoTo fractionBits :=
    Nat.mul_le_mul_right _ (by omega)
  rw [nearestRank_eq hl hu, Nat.succ_mul]
  omega

theorem nearestRank_lt {n : Nat} (h : n < twoTo (fractionBits + 1)) :
    nearestRank n 1 < (1 + leastPower + 1) * twoTo fractionBits := by
  rcases Nat.eq_zero_or_pos n with rfl | hn
  · decide +kernel
  · have h0 := Nat.ne_of_gt hn
    have hlog : n.log2 < fractionBits + 1 := (Nat.log2_lt h0).mpr h
    have hm : (n.log2 + leastPower - fractionBits) * twoTo fractionBits ≤
        leastPower * twoTo fractionBits := Nat.mul_le_mul_right _ (by omega)
    have hu := (significand_bounds h0 h).2
    rw [twoTo_succ] at hu
    rw [nearestRank_of_lt h0 h, Nat.succ_mul, Nat.add_comm 1, Nat.succ_mul]
    omega

theorem nearestRank_ne_zero {n : Nat} (h0 : n ≠ 0) : nearestRank n 1 ≠ 0 := by
  rcases Nat.lt_or_ge n (twoTo (fractionBits + 1)) with h | h
  · intro hr
    have hu := (exists_nearestRank h0 h).2
    rw [hr] at hu
    have hz : n * twoTo leastPower = 0 := hu.symm
    exact Nat.ne_of_gt (Nat.mul_pos (Nat.pos_of_ne_zero h0) (twoTo_pos _)) hz
  · refine Nat.ne_of_gt (Nat.lt_of_lt_of_le ?_ (le_nearestRank h))
    exact Nat.mul_pos (by decide) (twoTo_pos _)

theorem ofDecimal_zero (negative : Bool) (n : Nat) :
    ofDecimal negative n 0 = ofRatio negative n 1 := by
  rcases Nat.eq_zero_or_pos n with rfl | hn
  · cases negative <;> decide +kernel
  · have ht : n * tenTo (0 : Int).toNat = n := Nat.mul_one n
    rw [ofDecimal, if_neg (Nat.ne_of_gt hn), if_neg (by decide), if_pos (Int.le_refl 0), ht]

theorem same_ofRank (negative : Bool) (rank : Nat) :
    (ofRank negative rank).same (ofRank negative rank) = true := by
  unfold ofRank
  split <;> simp [same]

/-- Numbers below the infinite ones are equal only if they have the same rank. -/
theorem eq_of_same {negative negative' : Bool} {a b : Nat} (ha : a < rankBound)
    (h : (ofRank negative a).same (ofRank negative' b) = true) : a = b := by
  rw [ofRank, dif_pos ha, ofRank] at h
  split at h
  · simp only [same, Bool.and_eq_true, decide_eq_true_eq, Fin.mk.injEq] at h
    exact h.1
  · cases h

/-- A number below zero is none of the numbers from zero on. -/
theorem same_ofRank_true {a : Nat} (ha : a ≠ 0) (b : Nat) :
    (ofRank true a).same (ofRank false b) = false := by
  unfold ofRank
  split <;> split <;> simp [same, ha]

theorem same_ofNat_of_nearestRank_eq {m n : Nat} (h : nearestRank m 1 = nearestRank n 1) :
    (ofNat n).same (ofNat m) = true := by
  rw [ofNat, ofNat, ofRatio, ofRatio, h]
  exact same_ofRank false _

/-- A number with too many digits is taken for another one. -/
theorem exists_same_ofNat {n : Nat} (hl : twoTo (fractionBits + 1) ≤ n)
    (hn : twoTo (fractionBits + 2) ≤ n ∨ n % 4 ≠ 2) :
    ∃ m, m ≠ n ∧ (ofNat n).same (ofNat m) = true := by
  have h0 : n ≠ 0 := Nat.ne_of_gt (Nat.lt_of_lt_of_le (twoTo_pos _) hl)
  have hlog : fractionBits + 1 ≤ n.log2 := (Nat.le_log2 h0).mpr hl
  obtain ⟨k, hk⟩ := Nat.exists_eq_add_of_le (Nat.le_of_succ_le hlog)
  have hkl : twoTo (fractionBits + k) ≤ n := hk ▸ Nat.log2_self_le h0
  have hku : n < twoTo (fractionBits + k + 1) := hk ▸ Nat.lt_log2_self
  -- the digits that are too many are the remainder by this power
  have hd : 4 ≤ twoTo k ∨ twoTo k = 2 ∧ (n / twoTo k % 2 = 0 ∨ n % twoTo k = 1) := by
    rcases Nat.lt_or_ge 1 k with hk1 | hk1
    · exact .inl (Nat.pow_le_pow_right (by decide) hk1 : Nat.pow 2 2 ≤ Nat.pow 2 k)
    · have hk1 : k = 1 := by omega
      subst hk1
      have ht : twoTo 1 = 2 := rfl
      have hn := hn.resolve_left (Nat.not_le_of_lt hku)
      refine .inr ⟨ht, ?_⟩
      rw [ht]
      omega
  obtain ⟨m, hne, hml, hmu, hr⟩ := exists_roundHalfEven_eq (Nat.mod_lt n (twoTo_pos k)) hd
  rw [Nat.div_add_mod] at hne hr
  have hq : twoTo fractionBits ≤ n / twoTo k := by
    rwa [Nat.le_div_iff_mul_le (twoTo_pos _), ← twoTo_add]
  have hq' : n / twoTo k < twoTo (fractionBits + 1) := by
    rwa [Nat.div_lt_iff_lt_mul (twoTo_pos _), ← twoTo_add, Nat.add_right_comm]
  have hml' : twoTo (fractionBits + k) ≤ m := by
    rw [Nat.add_comm, twoTo_add]
    exact Nat.le_trans (Nat.mul_le_mul_left _ hq) hml
  have hmu' : m ≤ twoTo (fractionBits + k + 1) := by
    rw [Nat.add_right_comm, Nat.add_comm, twoTo_add]
    exact Nat.le_trans hmu (Nat.mul_le_mul_left _ hq')
  refine ⟨m, hne, same_ofNat_of_nearestRank_eq ?_⟩
  rw [nearestRank_eq hml' hmu', nearestRank_eq hkl (Nat.le_of_lt hku), hr]

theorem nearestRank_inj {m n : Nat} (hm : m < twoTo (fractionBits + 1))
    (hn : n < twoTo (fractionBits + 1)) (h : nearestRank m 1 = nearestRank n 1) : m = n := by
  have hi := toInt?_ofDecimal hm false
  rw [ofDecimal_zero, ofRatio, h, ← ofRatio, ← ofDecimal_zero, toInt?_ofDecimal hn false] at hi
  exact Int.ofNat.inj (Option.some.inj hi).symm

/-- A number of at most 53 binary digits is taken for no other one. -/
theorem eq_of_nearestRank_eq_of_lt {m n : Nat} (hn : n < twoTo (fractionBits + 1))
    (h : nearestRank m 1 = nearestRank n 1) : m = n := by
  rcases Nat.lt_or_ge m (twoTo (fractionBits + 1)) with hm | hm
  · exact nearestRank_inj hm hn h
  · have hl := le_nearestRank hm
    have hu := nearestRank_lt hn
    omega

theorem nearestRank_two {n : Nat} (hl : twoTo (fractionBits + 1) ≤ n)
    (hu : n ≤ twoTo (fractionBits + 2)) :
    nearestRank n 1 = (1 + leastPower) * twoTo fractionBits +
      if n % 4 = 3 then n / 2 + 1 else n / 2 := by
  have hr := roundHalfEven_mul_add (n / 2) (Nat.mod_lt n (by decide : 0 < 2))
  rw [Nat.div_add_mod] at hr
  rw [nearestRank_eq (k := 1) hl hu]
  refine congrArg ((1 + leastPower) * twoTo fractionBits + ·) (hr.trans ?_)
  split <;> split <;> omega

/-- The significand of twice an odd number is odd, and no number between two others is rounded to an
odd one. -/
theorem eq_of_nearestRank_eq_of_odd {m n : Nat} (hl : twoTo (fractionBits + 1) ≤ n)
    (hu : n < twoTo (fractionBits + 2)) (hn : n % 4 = 2)
    (h : nearestRank m 1 = nearestRank n 1) : m = n := by
  have hr := nearestRank_two hl (Nat.le_of_lt hu)
  have hp : leastPower = 1074 := rfl
  have h53 := twoTo_succ fractionBits
  have h54 : twoTo (fractionBits + 2) = twoTo (fractionBits + 1) * 2 := twoTo_succ _
  rcases Nat.lt_or_ge m (twoTo (fractionBits + 1)) with hm | hm
  · have hlt := nearestRank_lt hm
    rw [if_neg (by omega)] at hr
    rw [hp] at hr hlt
    omega
  · rcases Nat.lt_or_ge (twoTo (fractionBits + 2)) m with hm' | hm'
    · have hle := le_nearestRank (k := 2) (Nat.le_of_lt hm')
      rw [if_neg (by omega)] at hr
      rw [hp] at hr hle
      omega
    · rw [nearestRank_two hm hm', hr] at h
      split at h <;> split at h <;> omega

theorem nearestRank_lt_rankBound {n : Nat} (h : n < twoTo (fractionBits + 2)) :
    nearestRank n 1 < rankBound := by
  have hp : leastPower = 1074 := rfl
  have h53 := twoTo_succ fractionBits
  have h54 : twoTo (fractionBits + 2) = twoTo (fractionBits + 1) * 2 := twoTo_succ _
  have hpos := twoTo_pos fractionBits
  rw [rankBound]
  rcases Nat.lt_or_ge n (twoTo (fractionBits + 1)) with hn | hn
  · have hlt := nearestRank_lt hn
    rw [hp] at hlt
    omega
  · rw [nearestRank_two hn (Nat.le_of_lt h), hp]
    split <;> omega

/-- Whole numbers are told apart if they have at most 53 binary digits, or if they have 54 and are
twice an odd number. -/
theorem same_ofNat_imp_eq_iff {n : Nat} :
    (∀ m : Nat, (ofNat n).same (ofNat m) = true → m = n) ↔
      n < twoTo (fractionBits + 1) ∨ n < twoTo (fractionBits + 2) ∧ n % 4 = 2 := by
  constructor
  · intro h
    rcases Nat.lt_or_ge n (twoTo (fractionBits + 1)) with hl | hl
    · exact .inl hl
    · refine .inr (Decidable.byContradiction fun hn => ?_)
      obtain ⟨m, hne, hm⟩ := exists_same_ofNat hl (by omega)
      exact hne (h m hm)
  · intro h m hs
    have hu : n < twoTo (fractionBits + 2) := by
      have h54 : twoTo (fractionBits + 2) = twoTo (fractionBits + 1) * 2 := twoTo_succ _
      omega
    rw [ofNat, ofNat, ofRatio, ofRatio] at hs
    have hr := (eq_of_same (nearestRank_lt_rankBound hu) hs).symm
    rcases Nat.lt_or_ge n (twoTo (fractionBits + 1)) with hl | hl
    · exact eq_of_nearestRank_eq_of_lt hl hr
    · exact eq_of_nearestRank_eq_of_odd hl hu (h.resolve_left (Nat.not_lt_of_le hl)).2 hr

end Double
end WikiMessage.Numeral
