import Mathlib.Data.List.Find
import WikiMessage.Proofs.Language.Data
import WikiMessage.Proofs.Number.Unsigned

/-!
# The form that a count selects

A form that begins with digits and an equals sign is taken by its number, and any other form by its
place among the others. The place of a count is the number of the categories of the language that
come before its own, so that how the two kinds of forms are mixed is of no importance.
-/

namespace WikiMessage

open Text Numeral

/-- Where an element stands among those of a class is the number of the class before it. -/
theorem idxOf?_filter {α : Type} [DecidableEq α] {p : α → Bool} {a : α} {l : List α} (ha : a ∈ l)
    (hp : p a = true) : (l.filter p).idxOf? a = some ((l.takeWhile (· ≠ a)).countP p) := by
  induction l with
  | nil => simp at ha
  | cons b l ih =>
    by_cases hb : b = a
    · subst hb
      simp [hp, List.idxOf?_cons]
    · have ih := ih ((List.mem_cons.mp ha).resolve_left (Ne.symm hb))
      rw [List.takeWhile_cons_of_pos (by simpa using hb), List.countP_cons]
      cases hpb : p b with
      | false => simp [hpb, ih]
      | true => simp [hpb, ih, List.idxOf?_cons, hb]

namespace Plural

/-- The number of the categories of the language that come before a category. -/
def RuleSet.rank (rules : RuleSet) (c : Category) : Nat :=
  (Category.all.takeWhile (· ≠ c)).countP fun c => rules.categories.contains c

variable {source : RuleSource}

theorem Sound.rulesFor? (h : Sound source) (tag : String) :
    ∃ rules, rulesFor? source tag = some rules ∧
      (∀ o, rules.category o ∈ rules.categories) ∧ .other ∈ rules.categories := by
  cases ht : source tag with
  | some rules =>
    exact ⟨rules, by rw [Plural.rulesFor?, ht]; rfl, h.category_mem ht, h.other_mem ht⟩
  | none =>
    obtain ⟨rules, he⟩ := Option.isSome_iff_exists.mp h.english
    exact ⟨rules, by rw [Plural.rulesFor?, ht, he]; rfl, h.category_mem he, h.other_mem he⟩

theorem RuleSet.idxOf?_ordered {rules : RuleSet} {c : Category} (hc : c ∈ rules.categories) :
    rules.ordered.idxOf? c = some (rules.rank c) :=
  idxOf?_filter c.mem_all (List.contains_iff_mem.mpr hc)

/-- The place of a number is the one of its category, whether it is a number or not. -/
theorem Sound.formIndexWith_eq (h : Sound source) (tag number : String) :
    ∃ rules, Plural.rulesFor? source tag = some rules ∧
      categoryWith source tag number ∈ rules.categories ∧
      rules.ordered[formIndexWith source tag number]? = some (categoryWith source tag number) ∧
      formIndexWith source tag number = rules.rank (categoryWith source tag number) := by
  obtain ⟨rules, hr, hc, ho⟩ := h.rulesFor? tag
  have hm : categoryWith source tag number ∈ rules.categories := by
    unfold categoryWith
    cases Operands.read? number with
    | some o => simp [hr, hc o]
    | none => exact ho
  have hx : rules.ordered.idxOf? (categoryWith source tag number) =
      some (formIndexWith source tag number) := by
    rw [RuleSet.idxOf?_ordered hm]
    unfold categoryWith formIndexWith
    cases Operands.read? number with
    | some o => simp [hr, RuleSet.idxOf?_ordered (hc o)]
    | none => simp [hr, RuleSet.idxOf?_ordered ho]
  obtain ⟨hl, hg, -⟩ := List.idxOf?_eq_some_iff.mp hx
  rw [RuleSet.idxOf?_ordered hm] at hx
  exact ⟨rules, hr, hm, by rw [List.getElem?_eq_getElem hl, hg], (Option.some.inj hx).symm⟩

end Plural

namespace Language

/-- The digits that a form begins with. -/
def frontDigits (form : String) : List Char := form.toList.takeWhile Char.isDigit

/-- Whether a form begins with at least one digit and an equals sign behind the digits. -/
def isExplicit (form : String) : Bool :=
  !(frontDigits form).isEmpty && (form.toList.dropWhile Char.isDigit).head? = some '='

/-- What stands in an explicit form behind its equals sign. -/
def textBehind (form : String) : String :=
  String.ofList (form.toList.dropWhile Char.isDigit).tail

theorem readDouble?_of_isDigits {ds : List Char} (h : isDigits ds = true) :
    Double.read? ds = some (.ofDecimal false (value ds) 0) := by
  obtain ⟨hn, hd⟩ := Bool.and_eq_true_iff.mp h
  have hu : Number.IsUnsigned ds [] := ⟨by simpa using hn, List.all_eq_true.mp hd, by simp⟩
  simpa [Number.unsigned, Number.unsignedDouble] using hu.readDouble?

theorem isDigits_frontDigits {form : String} (h : isExplicit form = true) :
    isDigits (frontDigits form) = true := by
  have hd : (frontDigits form).all Char.isDigit = true := List.all_takeWhile
  rw [isDigits, hd, Bool.and_true]
  exact (Bool.and_eq_true_iff.mp h).1

theorem explicitForm?_of_isExplicit {form : String} (h : isExplicit form = true) :
    explicitForm? form = some (.ofDecimal false (value (frontDigits form)) 0, textBehind form) := by
  obtain ⟨cs, hcs⟩ := List.head?_eq_some_iff.mp (of_decide_eq_true (Bool.and_eq_true_iff.mp h).2)
  have hd := isDigits_frontDigits h
  have hf : form.toList = frontDigits form ++ '=' :: cs := by
    rw [← hcs, frontDigits, List.takeWhile_append_dropWhile]
  have hc : cutAt? '=' form.toList = some (frontDigits form, cs) := by
    refine cutAt?_eq_some.mpr ⟨fun hm => ?_, hf⟩
    cases List.all_eq_true.mp (Bool.and_eq_true_iff.mp hd).2 _ hm
  rw [explicitForm?, hc]
  simp [hd, readDouble?_of_isDigits hd, textBehind, hcs]

theorem explicitForm?_of_not_isExplicit {form : String} (h : isExplicit form = false) :
    explicitForm? form = none := by
  rw [← Option.not_isSome_iff_eq_none]
  intro he
  obtain ⟨⟨x, text⟩, he⟩ := Option.isSome_iff_exists.mp he
  unfold explicitForm? at he
  split at he
  · rename_i ds cs hc
    obtain ⟨hd, -⟩ := Option.ite_none_right_eq_some.mp he
    obtain ⟨hn, hd⟩ := Bool.and_eq_true_iff.mp hd
    -- the digits in front of the first equals sign are all the digits in front
    obtain ⟨ht, hr⟩ := span_iff.mpr ⟨(cutAt?_eq_some.mp hc).2, List.all_eq_true.mp hd, by simp⟩
    have hx : isExplicit form = true := by simp [isExplicit, frontDigits, ht, hr, hn]
    rw [hx] at h
    cases h
  · cases he

theorem positionalForms_eq (forms : List String) :
    positionalForms forms = forms.filter fun form => !isExplicit form := by
  refine List.filter_congr fun form _ => ?_
  cases h : isExplicit form with
  | true => simp [explicitForm?_of_isExplicit h]
  | false => simp [explicitForm?_of_not_isExplicit h]

/-- Whether a form has the number of a count, as numbers of double precision. -/
def hasNumber (number form : String) : Bool :=
  match Double.read? number.toList, Double.read? (frontDigits form) with
  | some x, some y => x.same y
  | _, _ => false

theorem filterMap_explicitForm? (forms : List String) :
    forms.filterMap explicitForm? = (forms.filter isExplicit).map fun form =>
      (.ofDecimal false (value (frontDigits form)) 0, textBehind form) := by
  induction forms with
  | nil => rfl
  | cons form forms ih =>
    cases h : isExplicit form with
    | true => simp [h, ih, explicitForm?_of_isExplicit h]
    | false => simp [h, ih, explicitForm?_of_not_isExplicit h]

theorem explicitMatch?_eq (forms : List String) (number : String) :
    explicitMatch? forms number =
      ((forms.filter isExplicit).find? (hasNumber number)).map textBehind := by
  cases hx : Double.read? number.toList with
  | none =>
    have hn : (forms.filter isExplicit).find? (hasNumber number) = none :=
      List.find?_eq_none.mpr fun form _ => by simp [hasNumber, hx]
    rw [explicitMatch?, hx, hn]
    rfl
  | some x =>
    have hf : ∀ form ∈ forms.filter isExplicit,
        x.same (.ofDecimal false (value (frontDigits form)) 0) = hasNumber number form := by
      intro form hm
      rw [hasNumber, hx, readDouble?_of_isDigits (isDigits_frontDigits (List.mem_filter.mp hm).2)]
    rw [explicitMatch?, hx, filterMap_explicitForm?]
    simp only [Option.bind_eq_bind, Option.bind_some, List.find?_map, Function.comp_def]
    rw [List.find?_congr hf]
    cases (forms.filter isExplicit).find? (hasNumber number) <;> rfl

/-- What is selected of the forms with numbers and of the other forms by the number of a count and
the place of its category. -/
inductive Selects (number : String) (place : Nat) (explicit positional : List String) :
    String → Prop
  | byNumber {form : String} (h : explicit.find? (hasNumber number) = some form) :
      Selects number place explicit positional (textBehind form)
  | byPlace {form : String} (h : explicit.find? (hasNumber number) = none)
      (hp : positional[min place (positional.length - 1)]? = some form) :
      Selects number place explicit positional form
  | nothing (h : explicit.find? (hasNumber number) = none) (hp : positional = []) :
      Selects number place explicit positional ""

variable {source : Plural.RuleSource}

theorem selects_pluralWith (l : Language) (count : Value) (forms : List String) :
    Selects (l.countText count) (Plural.formIndexWith source l.tag (l.countText count))
      (forms.filter isExplicit) (forms.filter fun form => !isExplicit form)
      (l.pluralWith source count forms) := by
  simp only [pluralWith, explicitMatch?_eq]
  cases he : (forms.filter isExplicit).find? (hasNumber (l.countText count)) with
  | some form => exact .byNumber he
  | none =>
    simp only [Option.map_none, positionalMatch, positionalForms_eq]
    rcases hp : forms.filter fun form => !isExplicit form with _ | ⟨first, more⟩
    · exact .nothing he rfl
    · -- there is a last form, and so one in each place up to it
      have hl : min (Plural.formIndexWith source l.tag (l.countText count))
          ((first :: more).length - 1) < (first :: more).length := by
        simp only [List.length_cons]
        omega
      exact .byPlace he (by rw [List.getElem?_eq_getElem hl, Option.getD_some])

theorem Selects.unique {number : String} {place : Nat} {explicit positional : List String}
    {text text' : String} (h : Selects number place explicit positional text)
    (h' : Selects number place explicit positional text') : text = text' := by
  cases h with
  | byNumber h =>
    cases h' with
    | byNumber h' => rw [Option.some.inj (h.symm.trans h')]
    | byPlace h' => cases h.symm.trans h'
    | nothing h' => cases h.symm.trans h'
  | byPlace h hp =>
    cases h' with
    | byNumber h' => cases h.symm.trans h'
    | byPlace _ hp' => exact Option.some.inj (hp.symm.trans hp')
    | nothing _ hn => simp [hn] at hp
  | nothing h hn =>
    cases h' with
    | byNumber h' => cases h.symm.trans h'
    | byPlace _ hp => simp [hn] at hp
    | nothing => rfl

/-- A count selects the first form with its number, and if there is none the form in the place of
its category; the category is one of the language's, and its place is counted among them. How the
forms with numbers stand among the others is of no importance. -/
theorem pluralWith_eq_iff_selects (h : Plural.Sound source) (l : Language) (count : Value)
    (forms : List String) :
    let number := l.countText count
    let category := Plural.categoryWith source l.tag number
    ∃ rules, Plural.rulesFor? source l.tag = some rules ∧
      category ∈ rules.categories ∧
      rules.ordered[Plural.formIndexWith source l.tag number]? = some category ∧
      Plural.formIndexWith source l.tag number = rules.rank category ∧
      (∀ text, l.pluralWith source count forms = text ↔
        Selects number (rules.rank category) (forms.filter isExplicit)
          (forms.filter fun form => !isExplicit form) text) ∧
      ∀ others, others.filter isExplicit = forms.filter isExplicit →
        (others.filter fun form => !isExplicit form) =
          (forms.filter fun form => !isExplicit form) →
        l.pluralWith source count others = l.pluralWith source count forms := by
  intro number category
  obtain ⟨rules, hr, hm, hg, hk⟩ := h.formIndexWith_eq l.tag number
  refine ⟨rules, hr, hm, hg, hk, fun text => ?_, fun others he hp => ?_⟩
  · have hs := @selects_pluralWith source l count forms
    rw [hk] at hs
    constructor
    · rintro rfl
      exact hs
    · exact hs.unique
  · have hs := @selects_pluralWith source l count others
    rw [he, hp] at hs
    exact hs.unique (selects_pluralWith l count forms)

theorem pluralWith_eq_iff_selects_russian :
    Plural.Sound LanguageData.excerpt.rules ∧
      (ofTag "ru").pluralWith LanguageData.excerpt.rules (.number 22)
        ["12=a dozen", "one", "few", "many"] = "few" ∧
      (ofTag "ru").pluralWith LanguageData.excerpt.rules (.number 22)
        ["one", "few", "12=a dozen", "many"] = "few" := by
  obtain ⟨rules, -, -, -, hk, hs, hi⟩ :=
    pluralWith_eq_iff_selects LanguageData.sound_excerpt (ofTag "ru") (.number 22)
      ["12=a dozen", "one", "few", "many"]
  rw [← hk] at hs
  have hf := (hs "few").mpr (.byPlace (by decide +kernel) (by decide +kernel))
  exact ⟨LanguageData.sound_excerpt, hf, (hi _ (by decide +kernel) (by decide +kernel)).trans hf⟩

end Language
end WikiMessage
