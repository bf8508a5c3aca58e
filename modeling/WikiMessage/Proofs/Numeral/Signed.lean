import Mathlib.Tactic.IntervalCases
import WikiMessage.Numeral.Digits

/-!
# Spellings of integers

What is read as an integer may have a plus, zeros in front of its digits, or a minus in front of
zero. Written again, an integer has its shortest spelling, so these are all that is lost.
-/

namespace WikiMessage.Numeral

/-- Decimal digits, with or without a sign, and their value. -/
inductive Spells : List Char → Int → Prop
  | unsigned {ds : List Char} (h : isDigits ds = true) : Spells ds (value ds)
  | plus {ds : List Char} (h : isDigits ds = true) : Spells ('+' :: ds) (value ds)
  | minus {ds : List Char} (h : isDigits ds = true) : Spells ('-' :: ds) (-(value ds : Int))

/-- The integer is one of 64 bits. -/
def IsWord (n : Int) : Prop := -(twoTo 63 : Int) ≤ n ∧ n < twoTo 63

instance (n : Int) : Decidable (IsWord n) := inferInstanceAs (Decidable (_ ∧ _))

/-- Zero alone, or digits that do not begin with a zero, with nothing but a minus in front. -/
def IsShortest (cs : List Char) : Prop :=
  cs = ['0'] ∨ ∃ d ds, (cs = d :: ds ∨ cs = '-' :: d :: ds) ∧ '1' ≤ d ∧ d ≤ '9'

theorem isDigits_iff {ds : List Char} :
    isDigits ds = true ↔ ds ≠ [] ∧ ∀ c ∈ ds, c.isDigit = true := by
  simp [isDigits]

theorem digits_zero : digits 0 = ['0'] := rfl

/-- The number that a digit stands for. -/
def digitValue (c : Char) : Nat := c.toNat - '0'.toNat

theorem toNat_of_isDigit {c : Char} (h : c.isDigit = true) : 48 ≤ c.toNat ∧ c.toNat ≤ 57 := by
  rw [Char.isDigit, Bool.and_eq_true, decide_eq_true_eq, decide_eq_true_eq] at h
  exact h

theorem digitValue_lt {c : Char} (h : c.isDigit = true) : digitValue c < 10 := by
  obtain ⟨hl, hu⟩ := toNat_of_isDigit h
  have hz : '0'.toNat = 48 := rfl
  rw [digitValue]
  omega

theorem digitChar_digitValue {c : Char} (h : c.isDigit = true) :
    Nat.digitChar (digitValue c) = c := by
  obtain ⟨hl, hu⟩ := toNat_of_isDigit h
  have hz : '0'.toNat = 48 := rfl
  apply Char.toNat_inj.mp
  rw [Nat.toNat_digitChar_of_lt_ten (digitValue_lt h), digitValue]
  omega

theorem digits_digitValue {c : Char} (h : c.isDigit = true) : digits (digitValue c) = [c] := by
  rw [digits, Nat.toDigits_of_lt_base (digitValue_lt h), digitChar_digitValue h]

/-- Digits are kept behind a number that is not zero. -/
theorem digits_ofDigitChars {ds : List Char} (h : ∀ c ∈ ds, c.isDigit = true) {m : Nat}
    (hm : 0 < m) : digits (Nat.ofDigitChars 10 ds m) = digits m ++ ds := by
  induction ds generalizing m with
  | nil => simp
  | cons d ds ih =>
    obtain ⟨hd, hr⟩ := List.forall_mem_cons.mp h
    have hs : digits (10 * m + digitValue d) = digits m ++ [d] := by
      rw [digits, ← Nat.toDigits_append_toDigits (by decide) hm (digitValue_lt hd), ← digits,
        ← digits, digits_digitValue hd]
    rw [Nat.ofDigitChars_cons, ← digitValue, ih hr (by omega), hs, List.append_assoc]
    rfl

theorem digits_value {d : Char} {ds : List Char} (h : isDigits (d :: ds) = true) (hd : '1' ≤ d) :
    digits (value (d :: ds)) = d :: ds := by
  obtain ⟨hc, hr⟩ := List.forall_mem_cons.mp (isDigits_iff.mp h).2
  have hp : 0 < digitValue d := by
    have hl : 49 ≤ d.toNat := hd
    have hz : '0'.toNat = 48 := rfl
    rw [digitValue]
    omega
  have hv : value (d :: ds) = Nat.ofDigitChars 10 ds (digitValue d) := by
    rw [value, Nat.ofDigitChars_cons, Nat.mul_zero, Nat.zero_add]
    rfl
  rw [hv, digits_ofDigitChars hr hp, digits_digitValue hc, List.singleton_append]

/-- A number is written as its digits without the zeros in front. -/
theorem digits_value_eq_dropWhile {ds : List Char} (h : ∀ c ∈ ds, c.isDigit = true)
    (hp : 0 < value ds) : digits (value ds) = ds.dropWhile (· = '0') := by
  induction ds with
  | nil => cases hp
  | cons d ds ih =>
    obtain ⟨hd, ht⟩ := List.forall_mem_cons.mp h
    by_cases hz : d = '0'
    · subst hz
      have hv : value ('0' :: ds) = value ds := value_zeros_append 1 ds
      rw [hv] at hp ⊢
      rw [ih ht hp, List.dropWhile_cons_of_pos rfl]
    · have hl : 49 ≤ d.toNat := by
        have hn : d.toNat ≠ 48 := fun he => hz (Char.toNat_inj.mp he)
        have hu := (toNat_of_isDigit hd).1
        omega
      rw [digits_value (isDigits_iff.mpr ⟨List.cons_ne_nil d ds, h⟩) hl,
        List.dropWhile_cons_of_neg (by simpa using hz)]

theorem value_pos {d : Char} {ds : List Char} (h : isDigits (d :: ds) = true) (hd : '1' ≤ d) :
    0 < value (d :: ds) := by
  by_contra hz
  have he := digits_value h hd
  rw [Nat.eq_zero_of_not_pos hz, digits_zero] at he
  cases he
  exact absurd hd (by decide)

/-- Only zero is written with a zero in front. -/
theorem digits_eq_cons {n : Nat} (hn : 0 < n) :
    ∃ d ds, digits n = d :: ds ∧ '1' ≤ d ∧ d ≤ '9' := by
  induction n using Nat.strong_induction_on with
  | _ n ih =>
    rcases Nat.lt_or_ge n 10 with hs | hl
    · refine ⟨Nat.digitChar n, [], Nat.toDigits_of_lt_base hs, ?_⟩
      interval_cases n <;> decide
    · obtain ⟨d, ds, hd, hb⟩ := ih (n / 10) (by omega) (by omega)
      refine ⟨d, ds ++ [Nat.digitChar (n % 10)], ?_, hb⟩
      rw [digits, Nat.toDigits_of_base_le (by decide) hl, ← digits, hd, List.cons_append]

theorem isShortest_signedDigits (n : Int) : IsShortest (signedDigits n) := by
  unfold signedDigits
  rcases Nat.eq_zero_or_pos n.natAbs with hz | hp
  · obtain rfl := Int.natAbs_eq_zero.mp hz
    exact .inl rfl
  · obtain ⟨d, ds, hd, hb⟩ := digits_eq_cons hp
    rw [hd]
    split
    · exact .inr ⟨d, ds, .inr rfl, hb⟩
    · exact .inr ⟨d, ds, .inl rfl, hb⟩

/-- An integer is written as it was spelled if that is its shortest spelling. -/
theorem Spells.signedDigits_eq_iff {cs : List Char} {n : Int} (h : Spells cs n) :
    signedDigits n = cs ↔ IsShortest cs := by
  refine ⟨fun he => he ▸ isShortest_signedDigits n, fun hs => ?_⟩
  cases h with
  | unsigned h =>
    rcases hs with rfl | ⟨d, ds, rfl | rfl, hl, -⟩
    · rfl
    · rw [signedDigits, if_neg (by omega), Int.natAbs_natCast, digits_value h hl]
    · exact absurd ((isDigits_iff.mp h).2 '-' List.mem_cons_self) (by decide)
  | plus h =>
    rcases hs with hs | ⟨d, ds, hs | hs, hl, -⟩
    · cases hs
    · cases hs
      exact absurd hl (by decide)
    · cases hs
  | minus h =>
    rcases hs with hs | ⟨d, ds, hs | hs, hl, -⟩
    · cases hs
    · cases hs
      exact absurd hl (by decide)
    · cases hs
      have hp := value_pos h hl
      rw [signedDigits, if_pos (by omega), Int.natAbs_neg, Int.natAbs_natCast, digits_value h hl]

section

variable {ds : List Char}

theorem readSigned?_minus : readSigned? ('-' :: ds) =
    if isDigits ds = true ∧ IsWord (-(value ds : Int)) then some (-(value ds : Int)) else none := by
  simp [readSigned?, IsWord, ite_and]

theorem readSigned?_plus : readSigned? ('+' :: ds) =
    if isDigits ds = true ∧ IsWord (value ds) then some (value ds : Int) else none := by
  simp [readSigned?, IsWord, ite_and]

theorem readSigned?_unsigned (hm : ds.head? ≠ some '-') (hp : ds.head? ≠ some '+') :
    readSigned? ds =
      if isDigits ds = true ∧ IsWord (value ds) then some (value ds : Int) else none := by
  simp [readSigned?, IsWord, ite_and, hm, hp]

theorem head?_ne_of_isDigits (h : isDigits ds = true) {c : Char} (hc : c.isDigit = false) :
    ds.head? ≠ some c := by
  intro he
  rw [(isDigits_iff.mp h).2 c (List.mem_of_head? he)] at hc
  cases hc

end

/-- Reading takes all spellings of integers of 64 bits, and nothing else. -/
theorem readSigned?_eq_some_iff {cs : List Char} {n : Int} :
    readSigned? cs = some n ↔ Spells cs n ∧ IsWord n := by
  constructor
  · intro h
    by_cases hm : cs.head? = some '-'
    · obtain ⟨ds, rfl⟩ := List.head?_eq_some_iff.mp hm
      rw [readSigned?_minus] at h
      obtain ⟨⟨hd, hw⟩, hn⟩ := Option.ite_none_right_eq_some.mp h
      cases hn
      exact ⟨.minus hd, hw⟩
    by_cases hp : cs.head? = some '+'
    · obtain ⟨ds, rfl⟩ := List.head?_eq_some_iff.mp hp
      rw [readSigned?_plus] at h
      obtain ⟨⟨hd, hw⟩, hn⟩ := Option.ite_none_right_eq_some.mp h
      cases hn
      exact ⟨.plus hd, hw⟩
    · rw [readSigned?_unsigned hm hp] at h
      obtain ⟨⟨hd, hw⟩, hn⟩ := Option.ite_none_right_eq_some.mp h
      cases hn
      exact ⟨.unsigned hd, hw⟩
  · rintro ⟨hs, hw⟩
    cases hs with
    | unsigned h =>
      rw [readSigned?_unsigned (head?_ne_of_isDigits h rfl) (head?_ne_of_isDigits h rfl),
        if_pos ⟨h, hw⟩]
    | plus h => rw [readSigned?_plus, if_pos ⟨h, hw⟩]
    | minus h => rw [readSigned?_minus, if_pos ⟨h, hw⟩]

end WikiMessage.Numeral
