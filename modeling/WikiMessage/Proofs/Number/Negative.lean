import Mathlib.Data.Nat.Digits.Defs
import WikiMessage.Proofs.Locale.Identifier
import WikiMessage.Proofs.Number.ReadBack
import WikiMessage.Proofs.Number.Written

/-!
# Numbers below zero are read back

A language writes its own sign in front of the digits of a number below zero. What is read in its
place is the sign without blanks in front of it and without separators, and only the minus of ASCII
is a sign to the reader. So a language reads its numbers below zero back if that is its sign.
-/

namespace WikiMessage

open WikiMessage.Text Numeral

theorem Text.trimChars_append (cs : List Char) {ds : List Char} (hn : ds ≠ [])
    (hf : ∀ c ∈ ds.head?, isBlank c = false) (hl : ∀ c ∈ ds.getLast?, isBlank c = false) :
    trimChars (cs ++ ds) = cs.dropWhile isBlank ++ ds := by
  have hd : (cs ++ ds).dropWhile isBlank = cs.dropWhile isBlank ++ ds := by
    rw [List.dropWhile_append, dropWhile_eq_self hf]
    split
    · rename_i he
      rw [List.isEmpty_iff.mp he, List.nil_append]
    · rfl
  have hr : ∀ c ∈ (cs.dropWhile isBlank ++ ds).reverse.head?, isBlank c = false := by
    rw [List.head?_reverse, List.getLast?_append_of_ne_nil _ hn]
    exact hl
  rw [trimChars, hd, dropWhileEnd, dropWhile_eq_self hr, List.reverse_reverse]

namespace Numeral.Double

/-- A text that begins with neither a digit nor a point has no magnitude. -/
theorem readMagnitude?_eq_none {c : Char} (hc : c.isDigit = false) (hp : c ≠ '.')
    (cs : List Char) : readMagnitude? (c :: cs) = none := by
  have hs : splitFraction (c :: cs) = ([], c :: cs) := by
    unfold splitFraction
    split
    · rename_i heq
      cases heq
      exact absurd rfl hp
    · rfl
  simp [readMagnitude?, hc, hs]

theorem read?_cons (c : Char) (cs : List Char) :
    read? (c :: cs) =
      if c = '-' then readUnsignedWith? ofDecimal true cs
      else if c = '+' then readUnsignedWith? ofDecimal false cs
      else readUnsignedWith? ofDecimal false (c :: cs) := by
  by_cases hm : c = '-'
  · subst hm
    rfl
  · by_cases hp : c = '+'
    · subst hp
      rfl
    · rw [if_neg hm, if_neg hp, read?, readWith?]
      · rintro es ⟨⟩
        exact hm rfl
      · rintro es ⟨⟩
        exact hp rfl

end Numeral.Double

namespace Number

variable {whole fraction : List Char}

theorem IsUnsigned.readUnsignedWith?_append (h : IsUnsigned whole fraction) {c : Char}
    {cs : List Char} (hc : c.isDigit = false) (hp : c ≠ '.') (round : Bool → Nat → Int → Double)
    (negative : Bool) :
    Double.readUnsignedWith? round negative (c :: (cs ++ unsigned whole fraction)) = none := by
  obtain ⟨e, es, he, hed⟩ := h.exists_cons
  have hm : e ∈ c :: (cs ++ unsigned whole fraction) := by simp [he]
  rw [readUnsignedWith?_of_isDigit hm hed, Double.readMagnitude?_eq_none hc hp]
  rfl

/-- Of what has neither digits nor points, only a plus or a minus may stand in front of a number. -/
theorem IsUnsigned.readDouble?_append (h : IsUnsigned whole fraction) {sign : List Char}
    (hs : ∀ c ∈ sign, c.isDigit = false ∧ c ≠ '.') :
    Double.read? (sign ++ unsigned whole fraction) =
      if sign = ['-'] then some (.ofDecimal true (value (whole ++ fraction)) (-fraction.length))
      else if sign = [] ∨ sign = ['+'] then some (unsignedDouble whole fraction)
      else none := by
  cases sign with
  | nil => simpa using h.readDouble?
  | cons c cs =>
    obtain ⟨⟨hc, hp⟩, hs⟩ := List.forall_mem_cons.mp hs
    rw [List.cons_append, Double.read?_cons, h.readUnsignedWith?_append hc hp]
    cases cs with
    | nil => simp [h.readUnsignedWith?, unsignedDouble]
    | cons d ds =>
      obtain ⟨hd, hdp⟩ := hs d List.mem_cons_self
      simp [h.readUnsignedWith?_append hd hdp]

namespace Symbols

variable {s : Symbols} {source : SymbolSource} {tag : String}

/-- What is read in place of the sign of numbers below zero. -/
def plainMinus (s : Symbols) (source : SymbolSource) (tag : String) : List Char :=
  (s.minus.toList.dropWhile isBlank).filterMap (plainChar? source tag)

/-- Nothing of the sign is read as a digit or as a point. -/
def SignsApart (s : Symbols) (source : SymbolSource) (tag : String) : Prop :=
  ∀ c ∈ s.plainMinus source tag, c.isDigit = false ∧ c ≠ '.'

instance (s : Symbols) (source : SymbolSource) (tag : String) :
    Decidable (s.SignsApart source tag) :=
  decidable_of_iff ((s.plainMinus source tag).all (fun c => !c.isDigit && c != '.') = true)
    (by simp [SignsApart])

theorem format_minus (s : Symbols) (whole fraction : List Char) :
    s.format ⟨.minus, whole, fraction⟩ =
      s.minus.toList ++ s.format ⟨.none, whole, fraction⟩ := by
  simp [format, signText]

theorem Legible.plainChars_format_minus (h : s.Legible tag) (hs : source tag = some s)
    (hu : IsUnsigned whole fraction) :
    plainChars source (String.ofList (s.format ⟨.minus, whole, fraction⟩)) tag =
      s.plainMinus source tag ++ unsigned whole fraction := by
  have hn : s.format ⟨.none, whole, fraction⟩ ≠ [] := by
    intro hn
    have hm := h.filterMap_format hs hu
    rw [hn, List.filterMap_nil] at hm
    obtain ⟨c, cs, hc, -⟩ := hu.exists_cons
    rw [hc] at hm
    cases hm
  rw [plainChars, String.toList_ofList, format_minus,
    trimChars_append _ hn (h.isBlank_head_format hu) (h.isBlank_getLast_format hu),
    toLatinChars_eq_map, List.filterMap_map]
  change List.filterMap (plainChar? source tag) _ = _
  rw [List.filterMap_append, h.filterMap_format hs hu, plainMinus]

end Symbols

/-- A number with a minus in front is formatted with the sign of the language. -/
theorem formatWith?_minus {source : SymbolSource} {s : Symbols} {tag number : String}
    {tags : List String} (hs : source tag = some s) (hu : IsUnsigned whole fraction)
    (hr : Decimal.isRange (whole.length - 1) (-fraction.length) = true)
    (hn : number.toList = '-' :: unsigned whole fraction) :
    formatWith? source number (tag :: tags) =
      some (String.ofList (s.format ⟨.minus, whole, fraction⟩)) := by
  have hw : whole.isEmpty = false := by simpa using hu.ne_nil
  have hc : unsigned whole fraction ≠ [] := List.append_ne_nil_of_left_ne_nil hu.ne_nil _
  have ht : trimChars ('-' :: unsigned whole fraction) = '-' :: unsigned whole fraction :=
    trimChars_append ['-'] hc hu.isBlank_head hu.isBlank_getLast
  have hd : Decimal.read? ('-' :: unsigned whole fraction) = some ⟨.minus, whole, fraction⟩ := by
    have hs : Decimal.readSign ('-' :: unsigned whole fraction) =
        (.minus, unsigned whole fraction) := rfl
    rw [hu.readDecimal?_of_readSign hs, Decimal.ofDigits?, hw]
    exact if_pos hr
  simp [formatWith?, hn, ht, hd, hs]

/-- Only the minus of ASCII, read in place of the sign, makes the number one below zero. -/
theorem parseWith?_format_minus {source : SymbolSource} {s : Symbols} {tag : String}
    (hs : source tag = some s) (hl : s.Legible tag) (hm : s.SignsApart source tag)
    (hu : IsUnsigned whole fraction) :
    parseWith? source (String.ofList (s.format ⟨.minus, whole, fraction⟩)) tag =
      if s.plainMinus source tag = ['-'] then
        (some (.ofDecimal true (value (whole ++ fraction)) (-fraction.length))).filter (·.isFinite)
      else if s.plainMinus source tag = [] ∨ s.plainMinus source tag = ['+'] then
        (some (unsignedDouble whole fraction)).filter (·.isFinite)
      else none := by
  rw [parseWith?, hl.plainChars_format_minus hs hu, hu.readDouble?_append hm]
  split
  · rfl
  · split <;> rfl

theorem isRange_digits {n : Nat} (h : n < tenTo 16) :
    Decimal.isRange ((digits n).length - 1) 0 = true := by
  have hl : (digits n).length ≤ 16 := Nat.toDigits_length 10 n 16 (by decide) h
  have ht : (twoTo 15 : Int) = 32768 := rfl
  simp only [Decimal.isRange, Bool.and_eq_true, decide_eq_true_eq, ht]
  omega

end Number

namespace Language

open Number

/-- A whole number below the bound is finite and an integer value. -/
theorem numberValue_ofDecimal {k : Nat} (hk : k < wholeBound) (negative : Bool) :
    (Double.ofDecimal negative k 0).isFinite = true ∧
      numberValue (.ofDecimal negative k 0) = .number (if negative then -(k : Int) else k) := by
  have hb : wholeBound ≤ twoTo (Double.fractionBits + 1) := by decide
  have hi := Double.toInt?_ofDecimal (Nat.lt_of_lt_of_le hk hb) negative
  have ha : (if negative then -(k : Int) else k).natAbs = k := by cases negative <;> simp
  refine ⟨Double.isFinite_of_toInt? hi, ?_⟩
  simp only [numberValue, hi, ha, if_pos hk]

variable {source : SymbolSource} {s : Symbols} {tag : String} {n : Int}

theorem formatNumberWith_ofTag (hw : Locale.Identifier.isWellFormed tag = true)
    (hs : source (Locale.normalize tag) = some s) (hn : n < 0) (hb : n.natAbs < wholeBound) :
    (ofTag tag).formatNumberWith source (.number n) =
      .string (String.ofList (s.format ⟨.minus, digits n.natAbs, []⟩)) := by
  obtain ⟨others, ho⟩ := Locale.Identifier.builtinChain_of_isWellFormed hw
  have ht : (signedText n).toList = '-' :: unsigned (digits n.natAbs) [] := by
    rw [signedText, String.toList_ofList, signedDigits, if_pos hn, unsigned, List.isEmpty_nil,
      if_pos rfl, List.append_nil]
  have hr := isRange_digits (n := n.natAbs) (Nat.lt_trans hb (by decide))
  have hl : (ofTag tag).fallbacks = Locale.normalize tag :: others := ho
  have hc : (ofTag tag).countText (.number n) = signedText n := rfl
  rw [formatNumberWith, hl, hc, formatWith?_minus hs (isUnsigned_digits n.natAbs) hr ht]

/-- An integer below zero is its own format read back exactly if the sign of the language is read as
the minus of ASCII. -/
theorem parseNumberWith_formatNumberWith_iff (hw : Locale.Identifier.isWellFormed tag = true)
    (hs : source (Locale.normalize tag) = some s) (hl : s.Legible (Locale.normalize tag))
    (hm : s.SignsApart source (Locale.normalize tag)) (hn : n < 0)
    (hb : -(wholeBound : Int) < n) :
    (ofTag tag).parseNumberWith source ((ofTag tag).formatNumberWith source (.number n)) =
        .number n ↔
      s.plainMinus source (Locale.normalize tag) = ['-'] := by
  have hb : n.natAbs < wholeBound := by omega
  have hv : value (digits n.natAbs ++ []) = n.natAbs := by rw [List.append_nil, value_digits]
  have hp := parseWith?_format_minus hs hl hm (isUnsigned_digits n.natAbs)
  obtain ⟨hfm, hnm⟩ := numberValue_ofDecimal hb true
  obtain ⟨hfp, hnp⟩ := numberValue_ofDecimal hb false
  simp only [unsignedDouble, hv, List.length_nil, Int.natCast_zero, Int.neg_zero,
    Option.filter_some, hfm, hfp, if_true] at hp
  rw [formatNumberWith_ofTag hw hs hn hb]
  simp only [parseNumberWith, ofTag, hp]
  by_cases hmin : s.plainMinus source (Locale.normalize tag) = ['-']
  · refine iff_of_true ?_ hmin
    simp only [if_pos hmin, hnm, if_true]
    exact congrArg Value.number (by omega)
  · refine iff_of_false (fun he => ?_) hmin
    rw [if_neg hmin] at he
    split at he
    · rename_i x hx
      -- without its sign the number is read as one above zero
      obtain ⟨-, hx⟩ := Option.ite_none_right_eq_some.mp hx
      rw [← Option.some.inj hx, hnp] at he
      have hk := Value.number.inj he
      simp only [Bool.false_eq_true, if_false] at hk
      omega
    · cases he

theorem parseNumberWith_formatNumberWith_german :
    let source := LanguageData.excerpt.symbols
    (ofTag "de").formatNumberWith source (.number (-1234567)) = .string "-1.234.567" ∧
      (ofTag "de").parseNumberWith source (.string "-1.234.567") = .number (-1234567) := by
  intro source
  let s : Symbols := ⟨"0123456789", '.', ',', "-", "+", 3, 3, 1⟩
  have hs : source (Locale.normalize "de") = some s := by decide +kernel
  have hl : s.Legible (Locale.normalize "de") :=
    { digits := .inl rfl
      point := by decide +kernel
      group := fun _ => by decide +kernel
      group_ne_point := fun _ => by decide
      sample := fun _ => by decide +kernel }
  have hm : s.SignsApart source (Locale.normalize "de") := by decide +kernel
  have hf : (ofTag "de").formatNumberWith source (.number (-1234567)) = .string "-1.234.567" := by
    decide +kernel
  refine ⟨hf, ?_⟩
  rw [← hf]
  exact (parseNumberWith_formatNumberWith_iff (by decide +kernel) hs hl hm (by decide)
    (by decide)).mpr (by decide +kernel)

/-- The sign of Swedish is a minus that is not read as one. -/
theorem exists_parseNumber_formatNumber_ne :
    let source := LanguageData.excerpt.symbols
    Locale.Identifier.isWellFormed "sv" = true ∧
      (source "sv").map Symbols.digits = some (String.ofList latinDigits) ∧
      (ofTag "sv").formatNumberWith source (.number (-5)) = .string "\u22125" ∧
      (ofTag "sv").parseNumberWith source ((ofTag "sv").formatNumberWith source (.number (-5))) =
        .string "\u22125" := by
  decide +kernel

end Language
end WikiMessage
