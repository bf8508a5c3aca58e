import Mathlib.Data.List.Basic
import WikiMessage.Number.Format
import WikiMessage.Proofs.Number.Format
import WikiMessage.Proofs.Number.Unsigned
import WikiMessage.Proofs.Numeral.Whole

/-!
# Numbers written without a language

A number as it is written without a language is a count in every language. Where its digits and its
sign are no separators, a whole number is read as itself; the point of another number may well be a
separator between groups.
-/

namespace WikiMessage

open WikiMessage.Text Numeral

/-- What is known of each character of a written number. -/
structure WrittenCharFacts (c : Char) : Prop where
  isAscii : isAscii c = true
  isBlank : isBlank c = false

theorem writtenCharFacts {c : Char} (h : isWrittenChar c = true) : WrittenCharFacts c := by
  rcases Bool.or_eq_true_iff.mp h with h | h
  · have ha : c.isAlphanum = true := by simp [Char.isAlphanum, h]
    exact ⟨isAscii_of_isAlphanum ha, isBlank_of_isAlphanum ha⟩
  · have hc := List.contains_iff_mem.mp h
    have ha : ∀ c ∈ "-.NaNinf".toList, Text.isAscii c = true := List.all_eq_true.mp rfl
    have hb : ∀ c ∈ "-.NaNinf".toList, (!Text.isBlank c) = true := List.all_eq_true.mp rfl
    exact ⟨ha c hc, by simpa using hb c hc⟩

theorem trimChars_written {cs : List Char} (h : ∀ c ∈ cs, isWrittenChar c = true) :
    trimChars cs = cs :=
  trimChars_eq_self (fun c hc => (writtenCharFacts (h c (List.mem_of_mem_head? hc))).isBlank)
    fun c hc => (writtenCharFacts (h c (List.mem_of_getLast? hc))).isBlank

/-- A count is the text of the value in digits of ASCII, whether it is a text or a number. -/
theorem Language.countText_eq (l : Language) (v : Value) :
    l.countText v = l.toLatin (trim v.toText) := by
  cases hv : v.asString? with
  | some s =>
    cases v with
    | string s => rfl
    | _ => cases hv
  | none =>
    have hw := Value.isWrittenChar_of_mem_toText hv
    have hl : l.toLatin (trim v.toText) = v.toText := by
      rw [toLatin, Number.toLatin, toList_trim, trimChars_written hw,
        Number.toLatinChars_of_isAscii fun c hc => (writtenCharFacts (hw c hc)).isAscii,
        String.ofList_toList]
    rw [hl]
    cases v with
    | string s => cases hv
    | _ => rfl

namespace Number

/-- A character that no language separates digits with. -/
structure Unseparating (s : Separators) (c : Char) : Prop where
  group : s.group ≠ some c
  point : s.point ≠ c

theorem latinChar_eq_minus {tag : String} {c : Char} (h : latinChar tag c = '-') : c = '-' := by
  unfold latinChar at h
  split at h
  · rename_i digits _
    rcases mem_swapDigit digits.toList latinDigits c with hm | hm
    · rw [h] at hm
      exact absurd hm (by decide)
    · exact hm.symm.trans h
  · exact h

/-- The sample is written with digits and separators only. -/
theorem not_minus_mem_sample {source : SymbolSource} (hk : source.KeepsMinus) {tag : String}
    {s : Symbols} (h : source tag = some s) : '-' ∉ toLatinChars tag (s.format sample) := by
  have hs : '-' ∉ s.format sample := by
    intro hm
    rcases s.mem_format sample _ hm with hm | hm | hm
    · cases hm
    · exact hk tag s h hm
    · exact absurd hm (by decide)
  rw [toLatinChars_eq_map]
  intro hm
  obtain ⟨c, hc, he⟩ := List.mem_map.mp hm
  exact hs (latinChar_eq_minus he ▸ hc)

variable {source : SymbolSource}

theorem unseparating (hk : source.KeepsMinus) {tag : String} {c : Char}
    (h : c.isDigit = true ∨ c = '-') : Unseparating (separatorsWith source tag) c := by
  rw [separatorsWith]
  cases hw : separatorsWith? source tag with
  | none =>
    rw [Option.getD_none]
    constructor
    · rintro ⟨⟩
      rcases h with h | h <;> cases h
    · rintro rfl
      rcases h with h | h <;> cases h
  | some separators =>
    obtain ⟨s, hs, hw⟩ := Option.bind_eq_some_iff.mp hw
    obtain ⟨point, hp, hw⟩ := Option.bind_eq_some_iff.mp hw
    obtain rfl := Option.some.inj hw
    -- a separator is a mark of the sample, and so neither a digit nor the sign
    have hm : ∀ e ∈ (toLatinChars tag (s.format sample)).filter (fun c => !c.isDigit), e ≠ c := by
      rintro e he rfl
      obtain ⟨he, hd⟩ := List.mem_filter.mp he
      rcases h with h | rfl
      · rw [h] at hd
        cases hd
      · exact not_minus_mem_sample hk hs he
    rw [Option.getD_some]
    constructor
    · intro hg
      dsimp only at hg
      split at hg
      · cases hg
      · exact hm c (List.mem_of_mem_head? hg) rfl
    · exact hm point (List.mem_of_getLast? hp)

theorem readChar_of_unseparating {s : Separators} {c : Char} (h : Unseparating s c)
    (hc : isAscii c = true) : readChar s c = some c := by
  have ha (e : Char) (he : isAscii e = false) : c ≠ e := by
    rintro rfl
    rw [hc] at he
    cases he
  rw [readChar, if_neg (Ne.symm h.group), if_neg (Ne.symm h.point), if_neg, if_neg (ha _ rfl)]
  simp [ha '\u066c' rfl, ha '\u00a0' rfl, ha '\u202f' rfl]

/-- No character of a whole number is lost when it is read. -/
theorem plainChars_signedText (hk : source.KeepsMinus) (n : Int) (tag : String) :
    plainChars source (signedText n) tag = signedDigits n := by
  have hw := @isWrittenChar_of_mem_signedDigits n
  have hr : ∀ c ∈ signedDigits n, readChar (separatorsWith source tag) c = some c := by
    intro c hc
    refine readChar_of_unseparating (unseparating hk ?_) (writtenCharFacts (hw c hc)).isAscii
    unfold signedDigits at hc
    split at hc
    · exact (List.mem_cons.mp hc).symm.imp_left (isDigit_of_mem_digits c)
    · exact .inl (isDigit_of_mem_digits c hc)
  rw [plainChars, signedText, String.toList_ofList, trimChars_written hw,
    toLatinChars_of_isAscii fun c hc => (writtenCharFacts (hw c hc)).isAscii,
    List.filterMap_congr hr, List.filterMap_some]

theorem isUnsigned_digits (n : Nat) : IsUnsigned (digits n) [] where
  ne_nil := Nat.toDigits_ne_nil
  whole := isDigit_of_mem_digits
  fraction := by simp

theorem read?_signedDigits (n : Int) :
    Double.read? (signedDigits n) = some (.ofDecimal (n < 0) n.natAbs 0) := by
  have hu := isUnsigned_digits n.natAbs
  have hd : unsigned (digits n.natAbs) [] = digits n.natAbs := List.append_nil _
  have hv : value (digits n.natAbs ++ []) = n.natAbs := by rw [List.append_nil, value_digits]
  unfold signedDigits
  split
  · rename_i hn
    have hr := hu.readUnsignedWith? Double.ofDecimal true
    rw [hd, hv] at hr
    simpa [Double.read?, Double.readWith?, hn] using hr
  · rename_i hn
    have hr := hu.readDouble?
    rw [hd, unsignedDouble, hv] at hr
    simpa [hn] using hr

/-- Every language reads a whole number of at most 53 binary digits as that number. -/
theorem parseWith?_signedText (hk : source.KeepsMinus) {n : Int}
    (h : n.natAbs < twoTo (Double.fractionBits + 1)) (tag : String) :
    ∃ x, parseWith? source (signedText n) tag = some x ∧ x.toInt? = some n := by
  have hi : (Double.ofDecimal (n < 0) n.natAbs 0).toInt? = some n := by
    rw [Double.toInt?_ofDecimal h]
    by_cases hn : n < 0
    · rw [decide_eq_true hn, if_pos rfl]
      exact congrArg some (by omega)
    · rw [decide_eq_false hn, if_neg Bool.false_ne_true]
      exact congrArg some (by omega)
  refine ⟨_, ?_, hi⟩
  rw [parseWith?, plainChars_signedText hk, read?_signedDigits, Option.filter_some,
    if_pos (Double.isFinite_of_toInt? hi)]

end Number

/-- A whole number below the bound is its own text read back, whatever the language. -/
theorem Language.parseNumberWith_signedText {source : Number.SymbolSource} (hk : source.KeepsMinus)
    (l : Language) {n : Int} (h : n.natAbs < wholeBound) :
    l.parseNumberWith source (.string (signedText n)) = .number n := by
  have hb : wholeBound ≤ twoTo (Double.fractionBits + 1) := by decide
  obtain ⟨x, hp, hx⟩ := Number.parseWith?_signedText hk (Nat.lt_of_lt_of_le h hb) l.tag
  simp only [parseNumberWith, hp, numberValue, hx, if_pos h]

end WikiMessage
