import Mathlib.Data.List.Basic
import WikiMessage.Number.Format
import WikiMessage.Proofs.Language.Data
import WikiMessage.Proofs.Number.Unsigned

/-!
# Formatted numbers are read back

Reading a number that a language wrote gives the number: the separators found out from the sample
are those of the language, the digits are read as those of ASCII, and nothing else is in the text.
-/

namespace WikiMessage.Number

open WikiMessage.Text Numeral

/-- A character of a formatted number as it is read, with the digits of any script. -/
def plainChar? (source : SymbolSource) (tag : String) (c : Char) : Option Char :=
  readChar (separatorsWith source tag) (latinChar tag c)

/-- Whether a character of a formatted number is no digit. -/
def isMark (tag : String) (c : Char) : Bool := !(latinChar tag c).isDigit

namespace Symbols

/-- How many separators stand between the digits before the point, of which there are `n`. -/
def separatorCount (s : Symbols) (n : Nat) : Nat :=
  (List.range n).countP (s.separates (n - 1))

/-- Some number is written with separators between its digits. -/
def Groups (s : Symbols) : Prop := ∃ n, 0 < s.separatorCount n

/-- The digits are those that are read as digits, the separators can be told from them and from one
another, and the sample has a separator between its digits if any number has. -/
structure Legible (s : Symbols) (tag : String) : Prop where
  digits : s.digits.toList = latinDigits ∨ scriptDigits? tag = some s.digits
  point : isDigitOf tag s.point = false
  group : s.Groups → isDigitOf tag s.group = false
  group_ne_point : s.Groups → s.group ≠ s.point
  sample : s.Groups → 0 < s.separatorCount Number.sample.whole.length

variable {s : Symbols} {tag : String}

/-- What is known of the digit with which a language writes a digit of ASCII. -/
structure DigitFacts (s : Symbols) (tag : String) (c : Char) : Prop where
  latinChar : latinChar tag (s.digit c) = c
  isBlank : isBlank (s.digit c) = false

theorem Legible.digitFacts (h : s.Legible tag) {c : Char} (hc : c.isDigit = true) :
    s.DigitFacts tag c := by
  obtain ⟨hg, hb, -⟩ := latinDigitFacts hc
  rcases h.digits with hd | hd
  · have he : s.digit c = c := by rw [digit, hd, hg, Option.getD_some]
    constructor
    · rw [he, latinChar_of_isDigit hc]
    · rwa [he]
  · have hs := isScript_of_scriptDigits? hd
    obtain ⟨hi, -⟩ := List.getElem?_eq_some_iff.mp hg
    rw [← hs.length] at hi
    have hx := List.getElem?_eq_getElem hi
    have he : s.digit c = s.digits.toList[c.toNat - '0'.toNat] := by
      rw [digit, hx, Option.getD_some]
    constructor
    · rw [he]
      exact latinChar_of_getElem? hd hx hg
    · rw [he]
      exact hs.not_isBlank _ (List.getElem_mem hi)

theorem separates_zero (s : Symbols) (upper : Nat) : s.separates upper 0 = false := by
  unfold separates
  by_cases hp : s.primary = 0 <;> simp [hp]

theorem separatorCount_pos_iff {n : Nat} :
    0 < s.separatorCount n ↔ ∃ power < n, s.separates (n - 1) power = true := by
  simp [separatorCount, List.countP_pos_iff]

/-- What is kept of the digits is kept without the separators. -/
theorem filterMap_grouped {keep : Char → Option Char} {upper : Nat} {cs : List Char}
    (hd : ∀ c ∈ cs, keep (s.digit c) = some c)
    (hg : ∀ power < cs.length, s.separates upper power = true → keep s.group = none) :
    (s.grouped upper cs).filterMap keep = cs := by
  induction cs with
  | nil => rfl
  | cons c cs ih =>
    obtain ⟨hc, hd⟩ := List.forall_mem_cons.mp hd
    have ih := ih hd fun power hp => hg power (Nat.lt_succ_of_lt hp)
    unfold grouped
    split
    · rename_i hs
      have hn := hg cs.length (Nat.lt_succ_self _) hs
      rw [List.filterMap_cons_some hc, List.filterMap_cons_none hn, ih]
    · rw [List.filterMap_cons_some hc, ih]

/-- Without the digits there are only the separators. -/
theorem filter_grouped {isMark : Char → Bool} {upper : Nat} {cs : List Char}
    (hd : ∀ c ∈ cs, isMark (s.digit c) = false)
    (hg : ∀ power < cs.length, s.separates upper power = true → isMark s.group = true) :
    (s.grouped upper cs).filter isMark =
      List.replicate ((List.range cs.length).countP (s.separates upper)) s.group := by
  induction cs with
  | nil => rfl
  | cons c cs ih =>
    obtain ⟨hc, hd⟩ := List.forall_mem_cons.mp hd
    have ih := ih hd fun power hp => hg power (Nat.lt_succ_of_lt hp)
    -- the first digit is the one of the highest power
    rw [List.length_cons, List.range_succ, List.countP_append, List.countP_singleton]
    unfold grouped
    split
    · rename_i hs
      have hm := hg cs.length (Nat.lt_succ_self _) hs
      rw [List.filter_cons_of_neg (by simp [hc]), List.filter_cons_of_pos hm, ih,
        List.replicate_succ]
    · rw [List.filter_cons_of_neg (by simp [hc]), ih, Nat.add_zero]

/-- No separator stands after the last digit. -/
theorem getLast?_grouped (s : Symbols) (upper : Nat) (cs : List Char) :
    (s.grouped upper cs).getLast? = cs.getLast?.map s.digit := by
  induction cs with
  | nil => rfl
  | cons c cs ih =>
    cases cs with
    | nil => simp [grouped, s.separates_zero]
    | cons e es =>
      have hg : ∃ d ds, s.grouped upper (e :: es) = d :: ds := by
        unfold grouped
        split <;> exact ⟨_, _, rfl⟩
      obtain ⟨d, ds, hg⟩ := hg
      rw [List.getLast?_cons_cons, ← ih, grouped, hg]
      split
      · rw [List.getLast?_cons_cons, List.getLast?_cons_cons]
      · rw [List.getLast?_cons_cons]

theorem format_unsigned (s : Symbols) (whole fraction : List Char) :
    s.format ⟨.none, whole, fraction⟩ = s.grouped (whole.length - 1) whole ++
      if fraction.isEmpty then [] else s.point :: fraction.map s.digit := by
  simp [format, signText]

variable {source : SymbolSource}

theorem Legible.isMark_digit (h : s.Legible tag) {c : Char} (hc : c.isDigit = true) :
    isMark tag (s.digit c) = false := by
  rw [isMark, (h.digitFacts hc).latinChar, hc, Bool.not_true]

theorem isMark_of_not_isDigitOf {c : Char} (h : isDigitOf tag c = false) :
    isMark tag c = true := by
  rw [isMark, latinChar_of_not_isDigitOf h, isDigit_of_not_isDigitOf h, Bool.not_false]

theorem Legible.filter_isMark_sample (h : s.Legible tag) :
    (s.format Number.sample).filter (isMark tag) =
      List.replicate (s.separatorCount Number.sample.whole.length) s.group ++ [s.point] := by
  have hw : ∀ c ∈ Number.sample.whole, c.isDigit = true := List.all_eq_true.mp rfl
  have hg : (s.grouped 6 Number.sample.whole).filter (isMark tag) =
      List.replicate (s.separatorCount Number.sample.whole.length) s.group :=
    filter_grouped (fun c hc => h.isMark_digit (hw c hc)) fun power hl ht =>
      isMark_of_not_isDigitOf (h.group ⟨_, separatorCount_pos_iff.mpr ⟨power, hl, ht⟩⟩)
  have hf : isMark tag (s.digit '5') = false := h.isMark_digit rfl
  have he : s.format Number.sample =
      s.grouped 6 Number.sample.whole ++ [s.point, s.digit '5'] := s.format_unsigned _ _
  rw [he, List.filter_append, hg, List.filter_cons_of_pos (isMark_of_not_isDigitOf h.point),
    List.filter_cons_of_neg (by simp [hf]), List.filter_nil]

/-- No mark of the sample is changed with the digits. -/
theorem Legible.marks_sample (h : s.Legible tag) :
    (toLatinChars tag (s.format Number.sample)).filter (fun c => !c.isDigit) =
      List.replicate (s.separatorCount Number.sample.whole.length) s.group ++ [s.point] := by
  have hm : (fun c => !c.isDigit) ∘ latinChar tag = isMark tag := by
    funext c
    simp only [Function.comp_apply, isMark]
  rw [toLatinChars_eq_map, List.filter_map, hm, h.filter_isMark_sample, List.map_append,
    List.map_replicate, List.map_singleton, latinChar_of_not_isDigitOf h.point]
  rcases Nat.eq_zero_or_pos (s.separatorCount Number.sample.whole.length) with hz | hz
  · rw [hz, List.replicate_zero, List.replicate_zero]
  · rw [latinChar_of_not_isDigitOf (h.group ⟨_, hz⟩)]

/-- The separators that are found out from the sample. -/
theorem Legible.separatorsWith_eq (h : s.Legible tag) (hs : source tag = some s) :
    separatorsWith source tag =
      ⟨if 0 < s.separatorCount Number.sample.whole.length then some s.group else none,
        s.point⟩ := by
  have hw : separatorsWith? source tag =
      some ⟨if 0 < s.separatorCount Number.sample.whole.length then some s.group else none,
        s.point⟩ := by
    unfold separatorsWith?
    simp only [hs, h.marks_sample, Option.bind_eq_bind, Option.bind_some]
    cases s.separatorCount Number.sample.whole.length with
    | zero => rfl
    | succ n =>
      have hl : (List.replicate (n + 1) s.group ++ [s.point]).getLast? = some s.point :=
        List.getLast?_concat
      have hf : (List.replicate (n + 1) s.group ++ [s.point]).head? = some s.group := rfl
      simp [hl, hf]
  rw [separatorsWith, hw, Option.getD_some]

theorem Legible.plainChar?_digit (h : s.Legible tag) (hs : source tag = some s) {c : Char}
    (hc : c.isDigit = true) : plainChar? source tag (s.digit c) = some c := by
  have hne {e : Char} (he : e.isDigit = false) : c ≠ e := by
    rintro rfl
    rw [hc] at he
    cases he
  have hp : c ≠ s.point := hne (isDigit_of_not_isDigitOf h.point)
  have hg : some c ≠ (separatorsWith source tag).group := by
    rw [h.separatorsWith_eq hs]
    split
    · rename_i hn
      exact fun he => hne (isDigit_of_not_isDigitOf (h.group ⟨_, hn⟩)) (Option.some.inj he)
    · exact Option.some_ne_none c
  -- the marks that are dropped in every language are no digits either
  rw [plainChar?, (h.digitFacts hc).latinChar, readChar, if_neg hg, h.separatorsWith_eq hs,
    if_neg hp, if_neg, if_neg (hne rfl)]
  simp [hne (e := '\u066c') rfl, hne (e := '\u00a0') rfl, hne (e := '\u202f') rfl]

theorem Legible.plainChar?_point (h : s.Legible tag) (hs : source tag = some s) :
    plainChar? source tag s.point = some '.' := by
  have hg : some s.point ≠ (separatorsWith source tag).group := by
    rw [h.separatorsWith_eq hs]
    split
    · rename_i hn
      exact fun he => h.group_ne_point ⟨_, hn⟩ (Option.some.inj he).symm
    · exact Option.some_ne_none _
  rw [plainChar?, latinChar_of_not_isDigitOf h.point, readChar, if_neg hg,
    h.separatorsWith_eq hs, if_pos rfl]

theorem Legible.plainChar?_group (h : s.Legible tag) (hs : source tag = some s) (hg : s.Groups) :
    plainChar? source tag s.group = none := by
  rw [plainChar?, latinChar_of_not_isDigitOf (h.group hg), readChar, h.separatorsWith_eq hs,
    if_pos (if_pos (h.sample hg)).symm]

variable {whole fraction : List Char}

theorem Legible.filterMap_format (h : s.Legible tag) (hs : source tag = some s)
    (hu : IsUnsigned whole fraction) :
    (s.format ⟨.none, whole, fraction⟩).filterMap (plainChar? source tag) =
      unsigned whole fraction := by
  have hw : (s.grouped (whole.length - 1) whole).filterMap (plainChar? source tag) = whole :=
    filterMap_grouped (fun c hc => h.plainChar?_digit hs (hu.whole c hc)) fun power hl ht =>
      h.plainChar?_group hs ⟨_, separatorCount_pos_iff.mpr ⟨power, hl, ht⟩⟩
  have hf : ∀ c ∈ fraction, (plainChar? source tag ∘ s.digit) c = some c :=
    fun c hc => h.plainChar?_digit hs (hu.fraction c hc)
  rw [format_unsigned, List.filterMap_append, hw, unsigned]
  congr 1
  split
  · rfl
  · rw [List.filterMap_cons_some (h.plainChar?_point hs), List.filterMap_map,
      List.filterMap_congr hf, List.filterMap_some]

/-- A formatted number begins with a digit. -/
theorem Legible.isBlank_head_format (h : s.Legible tag) (hu : IsUnsigned whole fraction) :
    ∀ a ∈ (s.format ⟨.none, whole, fraction⟩).head?, isBlank a = false := by
  intro a ha
  obtain ⟨c, cs, hc⟩ := List.exists_cons_of_ne_nil hu.ne_nil
  have hf : (s.format ⟨.none, whole, fraction⟩).head? = some (s.digit c) := by
    rw [format_unsigned, hc, grouped]
    split <;> rfl
  rw [hf] at ha
  obtain rfl := Option.some.inj ha
  exact (h.digitFacts (hu.whole c (by simp [hc]))).isBlank

/-- It ends with a digit, too. -/
theorem Legible.isBlank_getLast_format (h : s.Legible tag) (hu : IsUnsigned whole fraction) :
    ∀ a ∈ (s.format ⟨.none, whole, fraction⟩).getLast?, isBlank a = false := by
  intro a ha
  have hl : ∃ e, (s.format ⟨.none, whole, fraction⟩).getLast? = some (s.digit e) ∧
      e.isDigit = true := by
    rw [format_unsigned]
    rcases List.eq_nil_or_concat fraction with rfl | ⟨es, e, rfl⟩
    · refine ⟨whole.getLast hu.ne_nil, ?_, hu.whole _ (List.getLast_mem hu.ne_nil)⟩
      simp [getLast?_grouped, List.getLast?_eq_some_getLast hu.ne_nil]
    · exact ⟨e, by simp [List.getLast?_append, List.getLast?_cons], hu.fraction e (by simp)⟩
  obtain ⟨e, he, hed⟩ := hl
  rw [he] at ha
  obtain rfl := Option.some.inj ha
  exact (h.digitFacts hed).isBlank

theorem Legible.trimChars_format (h : s.Legible tag) (hu : IsUnsigned whole fraction) :
    trimChars (s.format ⟨.none, whole, fraction⟩) = s.format ⟨.none, whole, fraction⟩ :=
  trimChars_eq_self (h.isBlank_head_format hu) (h.isBlank_getLast_format hu)

end Symbols

variable {source : SymbolSource} {s : Symbols} {tag : String} {whole fraction : List Char}

theorem formatWith?_unsigned {number text : String} {tags : List String}
    (hs : source tag = some s) (hu : IsUnsigned whole fraction)
    (hn : number.toList = unsigned whole fraction)
    (ht : formatWith? source number (tag :: tags) = some text) :
    text = String.ofList (s.format ⟨.none, whole, fraction⟩) := by
  have hw : whole.isEmpty = false := by simpa using hu.ne_nil
  obtain ⟨d, hd, rfl⟩ := Option.map_eq_some_iff.mp ht
  rw [hn, hu.trimChars_eq, hu.readDecimal?, Decimal.ofDigits?, hw] at hd
  obtain ⟨-, hd⟩ := Option.ite_none_right_eq_some.mp hd
  obtain rfl := Option.some.inj hd
  simp [hs]

/-- What a language writes for an unsigned number is read as the same digits, and so as the number
nearest to them. -/
theorem parseWith?_formatWith? {number text : String} {tags : List String}
    (hs : source tag = some s) (hl : s.Legible tag) (hu : IsUnsigned whole fraction)
    (hn : number.toList = unsigned whole fraction)
    (hx : (unsignedDouble whole fraction).isFinite = true)
    (ht : formatWith? source number (tag :: tags) = some text) :
    plainChars source text tag = number.toList ∧
      Double.read? number.toList = some (unsignedDouble whole fraction) ∧
      parseWith? source text tag = some (unsignedDouble whole fraction) := by
  have hp : plainChars source text tag = unsigned whole fraction := by
    rw [plainChars, formatWith?_unsigned hs hu hn ht, String.toList_ofList,
      hl.trimChars_format hu, toLatinChars_eq_map, List.filterMap_map]
    exact hl.filterMap_format hs hu
  refine ⟨hp.trans hn.symm, ?_, ?_⟩
  · rw [hn, hu.readDouble?]
  · rw [parseWith?, hp, hu.readDouble?, Option.filter_some, if_pos hx]

theorem parseWith?_formatWith?_arabic :
    let source := LanguageData.excerpt.symbols
    formatWith? source "1234567.50" ["ar-eg"] = some "١٬٢٣٤٬٥٦٧٫٥٠" ∧
      plainChars source "١٬٢٣٤٬٥٦٧٫٥٠" "ar-eg" = "1234567.50".toList ∧
      Double.read? "1234567.50".toList = some (.ofDecimal false 123456750 (-2)) ∧
      parseWith? source "١٬٢٣٤٬٥٦٧٫٥٠" "ar-eg" = some (.ofDecimal false 123456750 (-2)) := by
  intro source
  let s : Symbols := ⟨"٠١٢٣٤٥٦٧٨٩", '\u066c', '\u066b', "\u061c-", "\u061c+", 3, 3, 1⟩
  have hs : source "ar-eg" = some s := by decide +kernel
  have hl : s.Legible "ar-eg" :=
    { digits := .inr (by decide +kernel)
      point := by decide +kernel
      group := fun _ => by decide +kernel
      group_ne_point := fun _ => by decide
      sample := fun _ => by decide +kernel }
  have hu : IsUnsigned "1234567".toList "50".toList :=
    ⟨by decide, List.all_eq_true.mp rfl, List.all_eq_true.mp rfl⟩
  have ht : formatWith? source "1234567.50" ["ar-eg"] = some "١٬٢٣٤٬٥٦٧٫٥٠" := by decide +kernel
  have hx : unsignedDouble "1234567".toList "50".toList = .ofDecimal false 123456750 (-2) :=
    congrArg₂ (Double.ofDecimal false) (by decide +kernel) (by decide)
  rw [← hx]
  exact ⟨ht, parseWith?_formatWith? hs hl hu (by decide) (by decide +kernel) ht⟩

end WikiMessage.Number
