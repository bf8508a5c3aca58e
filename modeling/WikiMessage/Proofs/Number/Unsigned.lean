import WikiMessage.Number.Decimal
import WikiMessage.Numeral.Double.Read
import WikiMessage.Proofs.Number.Script

/-!
# Unsigned numbers

Digits, alone or with a point and more digits after them, are read to their end: as a decimal
number with the same digits, and as the number nearest to it.
-/

namespace WikiMessage.Number

open WikiMessage.Text Numeral

/-- Digits, and a point and the digits of a fraction if there are any. -/
def unsigned (whole fraction : List Char) : List Char :=
  whole ++ if fraction.isEmpty then [] else '.' :: fraction

structure IsUnsigned (whole fraction : List Char) : Prop where
  ne_nil : whole ≠ []
  whole : ∀ c ∈ whole, c.isDigit = true
  fraction : ∀ c ∈ fraction, c.isDigit = true

/-- The number nearest to the digits. -/
def unsignedDouble (whole fraction : List Char) : Double :=
  .ofDecimal false (value (whole ++ fraction)) (-fraction.length)

/-- No word for infinity or for what is no number has digits in it. -/
theorem readUnsignedWith?_of_isDigit {cs : List Char} {c : Char} (hc : c ∈ cs)
    (hd : c.isDigit = true) (round : Bool → Nat → Int → Double) (negative : Bool) :
    Double.readUnsignedWith? round negative cs =
      (Double.readMagnitude? cs).map fun (mantissa, exponent) =>
        round negative mantissa exponent := by
  have hn (w : String) (hw : w.toList.any Char.isDigit = false) :
      String.ofList (cs.map Char.toLower) ≠ w := by
    rintro rfl
    rw [String.toList_ofList, List.any_eq_false] at hw
    refine hw c.toLower (List.mem_map_of_mem hc) ?_
    rw [(latinDigitFacts hd).toLower, hd]
  rw [Double.readUnsignedWith?]
  split
  · rename_i hw
    exact absurd hw (hn _ rfl)
  · rename_i hw
    exact absurd hw (hn _ rfl)
  · rename_i hw
    exact absurd hw (hn _ rfl)
  · rfl

namespace IsUnsigned

variable {whole fraction : List Char}

/-- The parts that every reader splits an unsigned number into. -/
theorem split (h : IsUnsigned whole fraction) :
    (unsigned whole fraction).takeWhile Char.isDigit = whole ∧
      splitFraction ((unsigned whole fraction).dropWhile Char.isDigit) = (fraction, []) := by
  have he : ∀ c ∈ (if fraction.isEmpty then [] else '.' :: fraction : List Char).head?,
      c.isDigit = false := by
    cases fraction <;> simp
  obtain ⟨ht, hd⟩ := span_iff.mpr
    ⟨(rfl : unsigned whole fraction = _), h.whole, he⟩
  refine ⟨ht, ?_⟩
  rw [hd]
  cases hf : fraction with
  | nil => rfl
  | cons c cs =>
    have hs := span_iff.mpr ⟨(List.append_nil fraction).symm, h.fraction, by simp⟩
    rw [hf] at hs
    exact Prod.ext hs.1 hs.2

theorem exists_cons (h : IsUnsigned whole fraction) :
    ∃ c cs, unsigned whole fraction = c :: cs ∧ c.isDigit = true := by
  obtain ⟨c, cs, rfl⟩ := List.exists_cons_of_ne_nil h.ne_nil
  exact ⟨c, _, rfl, h.whole c List.mem_cons_self⟩

theorem getLast (h : IsUnsigned whole fraction) :
    ∃ c, (unsigned whole fraction).getLast? = some c ∧ c.isDigit = true := by
  cases hf : fraction with
  | nil =>
    refine ⟨whole.getLast h.ne_nil, ?_, h.whole _ (List.getLast_mem h.ne_nil)⟩
    simp [unsigned, List.getLast?_eq_some_getLast h.ne_nil]
  | cons c cs =>
    have hn : c :: cs ≠ [] := List.cons_ne_nil c cs
    have hu : unsigned whole (c :: cs) = (whole ++ ['.']) ++ (c :: cs) := by simp [unsigned]
    refine ⟨(c :: cs).getLast hn, ?_, h.fraction _ (hf ▸ List.getLast_mem hn)⟩
    rw [hu, List.getLast?_append, List.getLast?_eq_some_getLast hn, Option.some_or]

theorem isBlank_head (h : IsUnsigned whole fraction) :
    ∀ a ∈ (unsigned whole fraction).head?, isBlank a = false := by
  obtain ⟨c, cs, hc, hcd⟩ := h.exists_cons
  rw [hc]
  rintro a ⟨⟩
  exact (latinDigitFacts hcd).isBlank

theorem isBlank_getLast (h : IsUnsigned whole fraction) :
    ∀ a ∈ (unsigned whole fraction).getLast?, isBlank a = false := by
  obtain ⟨e, he, hed⟩ := h.getLast
  rw [he]
  rintro a ⟨⟩
  exact (latinDigitFacts hed).isBlank

theorem trimChars_eq (h : IsUnsigned whole fraction) :
    trimChars (unsigned whole fraction) = unsigned whole fraction :=
  trimChars_eq_self h.isBlank_head h.isBlank_getLast

/-- A sign is read before the digits. -/
theorem readDecimal?_of_readSign (h : IsUnsigned whole fraction) {text : List Char}
    {sign : Sign} (hs : Decimal.readSign text = (sign, unsigned whole fraction)) :
    Decimal.read? text = Decimal.ofDigits? sign whole fraction := by
  obtain ⟨e, he, hed⟩ := h.getLast
  unfold Decimal.read?
  simp only [hs, h.split, he, List.isEmpty_nil, if_true, Option.any_some, hed]

theorem readDecimal? (h : IsUnsigned whole fraction) :
    Decimal.read? (unsigned whole fraction) = Decimal.ofDigits? .none whole fraction := by
  obtain ⟨c, cs, hc, hcd⟩ := h.exists_cons
  refine h.readDecimal?_of_readSign ?_
  rw [hc]
  unfold Decimal.readSign
  split
  · rename_i heq
    cases heq
    cases hcd
  · rename_i heq
    cases heq
    cases hcd
  · rfl

theorem readMagnitude? (h : IsUnsigned whole fraction) :
    Double.readMagnitude? (unsigned whole fraction) =
      some (value (whole ++ fraction), -(fraction.length : Int)) := by
  have hw : whole.isEmpty = false := by simpa using h.ne_nil
  simp [Double.readMagnitude?, h.split, hw, Double.readExponent?]

theorem readUnsignedWith? (h : IsUnsigned whole fraction) (round : Bool → Nat → Int → Double)
    (negative : Bool) :
    Double.readUnsignedWith? round negative (unsigned whole fraction) =
      some (round negative (value (whole ++ fraction)) (-(fraction.length : Int))) := by
  obtain ⟨c, cs, hc, hcd⟩ := h.exists_cons
  have hm : c ∈ unsigned whole fraction := hc ▸ List.mem_cons_self
  rw [readUnsignedWith?_of_isDigit hm hcd, h.readMagnitude?]
  rfl

theorem readDouble? (h : IsUnsigned whole fraction) :
    Double.read? (unsigned whole fraction) = some (unsignedDouble whole fraction) := by
  obtain ⟨c, cs, hc, hcd⟩ := h.exists_cons
  have hr : Double.read? (unsigned whole fraction) =
      Double.readUnsignedWith? Double.ofDecimal false (unsigned whole fraction) := by
    rw [hc]
    unfold Double.read? Double.readWith?
    split
    · rename_i heq
      cases heq
      cases hcd
    · rename_i heq
      cases heq
      cases hcd
    · rfl
  rw [hr, h.readUnsignedWith?]
  rfl

end IsUnsigned

end WikiMessage.Number
