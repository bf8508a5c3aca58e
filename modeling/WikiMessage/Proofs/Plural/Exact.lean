import WikiMessage.Proofs.Number.Written
import WikiMessage.Proofs.Numeral.Distinct
import WikiMessage.Proofs.Plural.Selection

/-!
# Whole counts and the forms with their numbers

A whole count takes the first form with its number. The numbers are compared in double precision, so
that a count of more than 53 binary digits may take a form with another number; the counts that take
only forms with their own number are those that are told apart from all other whole numbers.
-/

namespace WikiMessage.Language

open Text Numeral

/-- The text of the first form whose number is a given one, where numbers are compared digit by
digit but for zeros in front. -/
def exactMatch? (forms : List String) (n : Int) : Option String :=
  ((forms.filter isExplicit).find? fun form => (value (frontDigits form) : Int) = n).map textBehind

theorem hasNumber_signedText {form : String} (h : isExplicit form = true) (n : Int) :
    hasNumber (signedText n) form =
      (Double.ofDecimal (n < 0) n.natAbs 0).same (.ofNat (value (frontDigits form))) := by
  have hd : Double.ofDecimal false (value (frontDigits form)) 0 =
      .ofNat (value (frontDigits form)) := Double.ofDecimal_zero false _
  rw [hasNumber, readDouble?_of_isDigits (isDigits_frontDigits h), signedText, String.toList_ofList,
    Number.read?_signedDigits, hd]

/-- No form has a number below zero. -/
theorem hasNumber_of_neg {form : String} (h : isExplicit form = true) {n : Int} (hn : n < 0) :
    hasNumber (signedText n) form = false := by
  rw [hasNumber_signedText h, decide_eq_true hn, Double.ofDecimal_zero, Double.ofRatio,
    Double.ofNat, Double.ofRatio]
  exact Double.same_ofRank_true (Double.nearestRank_ne_zero (by omega)) _

theorem hasNumber_of_nonneg {form : String} (h : isExplicit form = true) {n : Int} (hn : 0 ≤ n) :
    hasNumber (signedText n) form =
      (Double.ofNat n.natAbs).same (.ofNat (value (frontDigits form))) := by
  rw [hasNumber_signedText h, decide_eq_false (Int.not_lt.mpr hn), Double.ofDecimal_zero]
  rfl

/-- A form with the digits of a number and a text behind them. -/
def numberForm (m : Nat) (text : String) : String := String.ofList (digits m ++ '=' :: text.toList)

theorem split_numberForm (m : Nat) (text : String) :
    frontDigits (numberForm m text) = digits m ∧
      (numberForm m text).toList.dropWhile Char.isDigit = '=' :: text.toList :=
  span_iff.mpr ⟨String.toList_ofList, fun c hc => isDigit_of_mem_digits c hc, by simp⟩

theorem value_numberForm (m : Nat) (text : String) :
    value (frontDigits (numberForm m text)) = m := by
  rw [(split_numberForm m text).1, value_digits]

theorem isExplicit_numberForm (m : Nat) (text : String) :
    isExplicit (numberForm m text) = true := by
  obtain ⟨hf, hr⟩ := split_numberForm m text
  have hn : digits m ≠ [] := Nat.toDigits_ne_nil
  simp [isExplicit, hf, hr, hn]

theorem textBehind_numberForm (m : Nat) (text : String) :
    textBehind (numberForm m text) = text := by
  rw [textBehind, (split_numberForm m text).2, List.tail_cons, String.ofList_toList]

variable {source : Plural.RuleSource}

/-- A count that is told apart from the numbers of all forms takes them exactly. -/
theorem pluralWith_number_of_forall (l : Language) {n : Int} {forms : List String}
    (h : ∀ form ∈ forms.filter isExplicit,
      hasNumber (signedText n) form = decide ((value (frontDigits form) : Int) = n)) :
    l.pluralWith source (.number n) forms =
      (exactMatch? forms n).getD (positionalMatch source l.tag forms (signedText n)) := by
  have ht : l.countText (.number n) = signedText n := rfl
  simp only [pluralWith, ht, explicitMatch?_eq, exactMatch?, List.find?_congr h]
  cases (forms.filter isExplicit).find? fun form => (value (frontDigits form) : Int) = n <;> rfl

/-- A single form with a number that is not told apart from the count is taken. -/
theorem pluralWith_numberForm (l : Language) {k m : Nat} (text : String)
    (hs : (Double.ofNat k).same (.ofNat m) = true) :
    l.pluralWith source (.number k) [numberForm m text] = text := by
  have ht : l.countText (.number k) = signedText k := rfl
  have hh : hasNumber (signedText k) (numberForm m text) = true := by
    rw [hasNumber_of_nonneg (isExplicit_numberForm m text) (Int.natCast_nonneg k), value_numberForm]
    exact hs
  simp only [pluralWith, ht, explicitMatch?_eq, List.filter_cons, List.filter_nil,
    isExplicit_numberForm, if_true, List.find?_cons, hh, Option.map_some, textBehind_numberForm]

/-- Next to it no form with another number is the one with the count. -/
theorem exactMatch?_numberForm_of_ne {k m : Nat} (text : String) (hne : m ≠ k) :
    exactMatch? [numberForm m text] k = none := by
  have hd : decide ((m : Int) = k) = false := decide_eq_false (by omega)
  simp only [exactMatch?, List.filter_cons, List.filter_nil, isExplicit_numberForm, if_true,
    List.find?_cons, value_numberForm, hd, List.find?_nil, Option.map_none]

/-- A form with a number is no positional form. -/
theorem positionalMatch_numberForm (tag countText : String) (m : Nat) (text : String) :
    positionalMatch source tag [numberForm m text] countText = "" := by
  simp [positionalMatch, positionalForms_eq, isExplicit_numberForm]

/-- Whole counts take the forms with exactly their numbers if they have at most 53 binary digits, or
if they have 54 and are twice an odd number. All other counts take some form with another number. -/
theorem pluralWith_number_eq_iff (n : Int) :
    (∀ (source : Plural.RuleSource) (l : Language) (forms : List String),
      l.pluralWith source (.number n) forms =
        (exactMatch? forms n).getD (positionalMatch source l.tag forms (signedText n))) ↔
      n < twoTo 53 ∨ n < twoTo 54 ∧ n % 4 = 2 := by
  rcases Int.lt_or_le n 0 with hn | hn
  · have h53 : n < twoTo 53 := Int.lt_of_lt_of_le hn (Int.natCast_nonneg _)
    refine iff_of_true (fun source l forms => l.pluralWith_number_of_forall fun form hm => ?_)
      (.inl h53)
    rw [hasNumber_of_neg (List.mem_filter.mp hm).2 hn, eq_comm, decide_eq_false_iff_not]
    omega
  · obtain ⟨k, rfl⟩ := Int.eq_ofNat_of_zero_le hn
    have hc : (∀ m, (Double.ofNat k).same (.ofNat m) = true → m = k) ↔
        (k : Int) < twoTo 53 ∨ (k : Int) < twoTo 54 ∧ (k : Int) % 4 = 2 := by
      have hi : _ ↔ k < twoTo 53 ∨ k < twoTo 54 ∧ k % 4 = 2 := Double.same_ofNat_imp_eq_iff
      rw [hi]
      omega
    rw [← hc]
    constructor
    · intro h m hs
      -- A number that is taken for the count is asked about with a form of its own.
      have hx := h (fun _ => none) (ofTag "en") [numberForm m "x"]
      rw [pluralWith_numberForm _ "x" hs] at hx
      refine Decidable.byContradiction fun hne => ?_
      rw [exactMatch?_numberForm_of_ne "x" hne, positionalMatch_numberForm] at hx
      exact absurd hx (by decide)
    · intro h source l forms
      refine l.pluralWith_number_of_forall fun form hm => ?_
      rw [hasNumber_of_nonneg (List.mem_filter.mp hm).2 hn, Bool.eq_iff_iff, decide_eq_true_iff]
      constructor
      · intro hs
        exact congrArg Int.ofNat (h _ hs)
      · intro he
        rw [← Int.ofNat.inj he]
        exact Double.same_ofNat_of_nearestRank_eq rfl

/-- Two to the 53 takes the form with the odd number above it. -/
theorem exists_pluralWith_number_ne :
    exactMatch? ["9007199254740993=odd", "even"] 9007199254740992 = none ∧
      (ofTag "en").pluralWith LanguageData.excerpt.rules (.number 9007199254740992)
        ["9007199254740993=odd", "even"] = "odd" := by
  decide +kernel

end WikiMessage.Language
