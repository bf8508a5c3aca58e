import WikiMessage.Markup.Grammar
import WikiMessage.Proofs.Text.Repetition

/-!
# What the rules without nesting read

For each rule that no expression stands in: the texts on which it succeeds, what it reads of them
and what it leaves. Later proofs use these equivalences and do not open the rules.
-/

namespace WikiMessage.Markup

open WikiMessage.Text Rule

theorem plainChar_eq_some_iff {plain : Char → Bool} {cs piece rest : List Char} :
    plainChar plain cs = some (piece, rest) ↔
      ∃ c, piece = textChar c ∧
        (cs = '\\' :: c :: rest ∨ cs = c :: rest ∧ c ≠ '\\' ∧ plain c = true) := by
  cases cs with
  | nil => simp [plainChar]
  | cons c cs =>
    by_cases hb : c = '\\'
    · subst hb
      cases cs with
      | nil =>
        simp only [plainChar, if_pos, reduceCtorEq, false_iff]
        rintro ⟨c, -, h | ⟨h, hc, -⟩⟩
        · cases h
        · exact hc (List.cons.inj h).1.symm
      | cons d cs =>
        simp only [plainChar, if_pos, Option.some.injEq, Prod.mk.injEq, List.cons.injEq, true_and]
        constructor
        · rintro ⟨rfl, rfl⟩
          exact ⟨d, rfl, .inl ⟨rfl, rfl⟩⟩
        · rintro ⟨e, rfl, ⟨rfl, rfl⟩ | ⟨⟨rfl, -⟩, hc, -⟩⟩
          · exact ⟨rfl, rfl⟩
          · exact absurd rfl hc
    · simp only [plainChar, if_neg hb]
      constructor
      · intro h
        split at h
        · cases h
          exact ⟨c, rfl, .inr ⟨rfl, hb, ‹_›⟩⟩
        · cases h
      · rintro ⟨e, rfl, h | ⟨h, -, hp⟩⟩
        · exact absurd (List.cons.inj h).1 hb
        · obtain ⟨rfl, rfl⟩ := List.cons.inj h
          rw [if_pos hp]

/-- No text begins where the text ends, at a last backslash, or at a character of another class. -/
theorem plainChar_eq_none_iff {plain : Char → Bool} {cs : List Char} :
    plainChar plain cs = none ↔
      cs = [] ∨ cs = ['\\'] ∨ ∃ c rest, cs = c :: rest ∧ c ≠ '\\' ∧ plain c = false := by
  cases cs with
  | nil => simp [plainChar]
  | cons c cs =>
    by_cases hb : c = '\\'
    · subst hb
      cases cs with
      | nil => simp [plainChar]
      | cons d cs => simp [plainChar]
    · simp [plainChar, hb]

theorem advances_plainChar (plain : Char → Bool) : Advances (plainChar plain) := by
  intro cs piece rest h
  obtain ⟨c, -, rfl | ⟨rfl, -, -⟩⟩ := plainChar_eq_some_iff.mp h
  · refine ⟨(List.suffix_cons _ _).trans (List.suffix_cons _ _), ?_⟩
    simp only [List.length_cons]
    omega
  · exact ⟨List.suffix_cons _ _, by simp⟩

theorem textRun_eq_some_iff {plain : Char → Bool} {cs rest : List Char} {node : Node} :
    textRun plain cs = some (node, rest) ↔
      ∃ pieces, node = .text (String.ofList pieces.flatten) ∧ pieces ≠ [] ∧
        Run (plainChar plain) cs pieces rest := by
  simp only [textRun, Option.map_eq_some_iff, Prod.exists, Prod.mk.injEq]
  constructor
  · rintro ⟨pieces, left, h, rfl, rfl⟩
    exact ⟨pieces, rfl, (repeated1_eq_some_iff (advances_plainChar plain)).mp h⟩
  · rintro ⟨pieces, rfl, h⟩
    exact ⟨pieces, rest, (repeated1_eq_some_iff (advances_plainChar plain)).mpr h, rfl, rfl⟩

/-- All that a run of text says stands in the text that was read. -/
theorem exists_content_of_textRun {plain : Char → Bool} {cs rest : List Char} {node : Node}
    (h : textRun plain cs = some (node, rest)) :
    ∃ content, node = .text content ∧ ∀ c ∈ content.toList, ∃ d ∈ cs, c ∈ textChar d := by
  obtain ⟨pieces, rfl, -, hr⟩ := textRun_eq_some_iff.mp h
  have hp : ∀ piece ∈ pieces, ∃ d ∈ cs, piece = textChar d := by
    refine hr.forall_mem_of_suffix (advances_plainChar plain) fun mid piece rest hs hm => ?_
    obtain ⟨d, rfl, hd⟩ := plainChar_eq_some_iff.mp hm
    refine ⟨d, hs.subset ?_, rfl⟩
    rcases hd with rfl | ⟨rfl, -, -⟩ <;> simp
  refine ⟨_, rfl, fun c hc => ?_⟩
  rw [String.toList_ofList] at hc
  obtain ⟨piece, hm, hc⟩ := List.mem_flatten.mp hc
  obtain ⟨d, hd, rfl⟩ := hp piece hm
  exact ⟨d, hd, hc⟩

theorem textRun_eq_none_iff {plain : Char → Bool} {cs : List Char} :
    textRun plain cs = none ↔ plainChar plain cs = none := by
  rw [textRun, Option.map_eq_none_iff, repeated1_eq_none_iff (advances_plainChar plain)]

theorem advances_textRun (plain : Char → Bool) : Advances (textRun plain) := by
  intro cs node rest h
  obtain ⟨pieces, -, hn, hr⟩ := textRun_eq_some_iff.mp h
  exact ⟨hr.suffix (advances_plainChar plain), hr.length_lt (advances_plainChar plain) hn⟩

theorem stray_eq_some_iff {s : Scope} {cs rest : List Char} {node : Node} :
    stray s cs = some (node, rest) ↔
      ∃ c, cs = c :: rest ∧ isStray s (c :: rest) = true ∧
        node = .text (String.ofList (textChar c)) := by
  cases cs with
  | nil => simp [stray]
  | cons c cs =>
    simp only [stray, Option.ite_none_right_eq_some, Option.some.injEq, Prod.mk.injEq,
      List.cons.injEq]
    constructor
    · rintro ⟨h, rfl, rfl⟩
      exact ⟨c, ⟨rfl, rfl⟩, h, rfl⟩
    · rintro ⟨d, ⟨rfl, rfl⟩, h, rfl⟩
      exact ⟨h, rfl, rfl⟩

theorem advances_stray (s : Scope) : Advances (stray s) := by
  intro cs node rest h
  obtain ⟨c, rfl, -, -⟩ := stray_eq_some_iff.mp h
  exact ⟨List.suffix_cons _ _, by simp⟩

theorem readDigits?_eq_some_iff {cs : List Char} {n : Nat} :
    Numeral.readDigits? cs = some n ↔
      cs ≠ [] ∧ (∀ c ∈ cs, c.isDigit = true) ∧ n = Numeral.value cs ∧
        n < Numeral.unsignedBound := by
  simp only [Numeral.readDigits?, Numeral.isDigits, Option.ite_none_right_eq_some,
    Bool.and_eq_true, Bool.not_eq_true', List.isEmpty_eq_false_iff, List.all_eq_true,
    decide_eq_true_eq, Option.some.injEq]
  constructor
  · rintro ⟨⟨⟨hn, hd⟩, hb⟩, rfl⟩
    exact ⟨hn, hd, rfl, hb⟩
  · rintro ⟨hn, hd, rfl, hb⟩
    exact ⟨⟨⟨hn, hd⟩, hb⟩, rfl⟩

theorem placeholder_eq_some_iff {cs rest : List Char} {node : Node} :
    placeholder cs = some (node, rest) ↔
      ∃ ds n, node = .placeholder n ∧ cs = '$' :: (ds ++ rest) ∧ (∀ c ∈ ds, c.isDigit = true) ∧
        (∀ c ∈ rest.head?, c.isDigit = false) ∧ Numeral.value ds = n + 1 ∧
        n + 1 < Numeral.unsignedBound := by
  unfold placeholder
  split
  · rename_i cs
    split
    · rename_i n hd
      obtain ⟨-, -, hv, hb⟩ := readDigits?_eq_some_iff.mp hd
      simp only [Option.some.injEq, Prod.mk.injEq, List.cons.injEq, true_and]
      constructor
      · rintro ⟨rfl, hr⟩
        obtain ⟨hs, hw, hl⟩ := span_iff.mp ⟨rfl, hr⟩
        exact ⟨_, n, rfl, hs, hw, hl, hv.symm, hb⟩
      · rintro ⟨ds, m, rfl, rfl, hw, hl, hm, -⟩
        obtain ⟨ht, hr⟩ := span_iff.mpr ⟨rfl, hw, hl⟩
        rw [ht, hm] at hv
        exact ⟨by rw [Nat.succ.inj hv], hr⟩
    · rename_i hd
      simp only [reduceCtorEq, List.cons.injEq, true_and, false_iff]
      rintro ⟨ds, n, rfl, rfl, hw, hl, hm, hb⟩
      have ht := (span_iff.mpr ⟨rfl, hw, hl⟩).1
      have hn : ds ≠ [] := by
        rintro rfl
        cases hm
      exact hd n (by rw [ht]; exact readDigits?_eq_some_iff.mpr ⟨hn, hw, hm.symm, hb⟩)
  · rename_i hc
    simp only [reduceCtorEq, false_iff]
    rintro ⟨ds, n, rfl, rfl, -⟩
    exact hc _ rfl

theorem advances_placeholder : Advances placeholder := by
  intro cs node rest h
  obtain ⟨ds, n, -, rfl, -⟩ := placeholder_eq_some_iff.mp h
  refine ⟨(List.suffix_append ds rest).trans (List.suffix_cons _ _), ?_⟩
  simp only [List.length_cons, List.length_append]
  omega

theorem spaces_eq_some_iff {cs rest : List Char} :
    spaces cs = some ((), rest) ↔
      ∃ blanks, blanks ≠ [] ∧ cs = blanks ++ rest ∧ (∀ c ∈ blanks, isSpace c = true) ∧
        ∀ c ∈ rest.head?, isSpace c = false := by
  cases cs with
  | nil =>
    simp only [spaces, reduceCtorEq, false_iff]
    rintro ⟨blanks, hn, h, -⟩
    exact hn (List.append_eq_nil_iff.mp h.symm).1
  | cons c cs =>
    simp only [spaces, Option.ite_none_right_eq_some, Option.some.injEq, Prod.mk.injEq, true_and]
    constructor
    · rintro ⟨hc, hr⟩
      obtain ⟨hs, hw, hl⟩ := span_iff.mp ⟨rfl, hr⟩
      refine ⟨c :: cs.takeWhile isSpace, List.cons_ne_nil _ _, ?_, ?_, hl⟩
      · rw [List.cons_append, ← hs]
      intro d hd
      rcases List.mem_cons.mp hd with rfl | hd
      · exact hc
      · exact hw d hd
    · rintro ⟨blanks, hn, hs, hw, hl⟩
      cases blanks with
      | nil => exact absurd rfl hn
      | cons d blanks =>
        obtain ⟨rfl, rfl⟩ := List.cons.inj hs
        refine ⟨hw c List.mem_cons_self, (span_iff.mpr ⟨rfl, ?_, hl⟩).2⟩
        exact fun e he => hw e (List.mem_cons_of_mem _ he)

theorem advances_spaces : Advances spaces := by
  intro cs u rest h
  obtain ⟨blanks, hn, rfl, -⟩ := spaces_eq_some_iff.mp h
  have hp := List.length_pos_iff.mpr hn
  exact ⟨List.suffix_append _ _, by simp only [List.length_append]; omega⟩

theorem word_eq_some_iff {more : Char → Bool} {cs rest name : List Char} :
    word more cs = some (name, rest) ↔
      ∃ c tail, name = c :: tail ∧ cs = c :: (tail ++ rest) ∧ c.isAlpha = true ∧
        (∀ d ∈ tail, more d = true) ∧ ∀ d ∈ rest.head?, more d = false := by
  cases cs with
  | nil => simp [word]
  | cons c cs =>
    simp only [word, Option.ite_none_right_eq_some, Option.some.injEq, Prod.mk.injEq,
      List.cons.injEq]
    constructor
    · rintro ⟨hc, rfl, hr⟩
      obtain ⟨hs, hw, hl⟩ := span_iff.mp ⟨rfl, hr⟩
      exact ⟨c, _, rfl, ⟨rfl, hs⟩, hc, hw, hl⟩
    · rintro ⟨d, tail, rfl, ⟨rfl, rfl⟩, hc, hw, hl⟩
      obtain ⟨ht, hr⟩ := span_iff.mpr ⟨rfl, hw, hl⟩
      exact ⟨hc, by rw [ht], hr⟩

theorem advances_word (more : Char → Bool) : Advances (word more) := by
  intro cs name rest h
  obtain ⟨c, tail, -, rfl, -⟩ := word_eq_some_iff.mp h
  refine ⟨(List.suffix_append tail rest).trans (List.suffix_cons _ _), ?_⟩
  simp only [List.length_cons, List.length_append]
  omega

theorem quotedValue_eq_some_iff {cs rest value : List Char} :
    quotedValue cs = some (value, rest) ↔
      ∃ q, (q = '\x22' ∨ q = '\x27') ∧ q ∉ value ∧ cs = q :: (value ++ q :: rest) := by
  cases cs with
  | nil => simp [quotedValue]
  | cons q cs =>
    simp only [quotedValue, Bool.or_eq_true, decide_eq_true_eq, Option.ite_none_right_eq_some,
      cutAt?_eq_some, List.cons.injEq]
    constructor
    · rintro ⟨hq, hn, rfl⟩
      exact ⟨q, hq, hn, rfl, rfl⟩
    · rintro ⟨p, hp, hn, rfl, rfl⟩
      exact ⟨hp, hn, rfl⟩

theorem advances_quotedValue : Advances quotedValue := by
  intro cs value rest h
  obtain ⟨q, -, -, rfl⟩ := quotedValue_eq_some_iff.mp h
  refine ⟨⟨q :: (value ++ [q]), by simp⟩, ?_⟩
  simp only [List.length_cons, List.length_append]
  omega

/-- The characters of an attribute's name after the first. -/
def isAttributeChar (c : Char) : Bool := c.isAlphanum || c = '-'

theorem tagAttribute_eq_some_iff {cs rest : List Char} {a : Attribute} :
    tagAttribute cs = some (a, rest) ↔
      ∃ start name mid equals value,
        a = ⟨String.ofList (name.map Char.toLower), String.ofList value⟩ ∧
        spaces cs = some ((), start) ∧ word isAttributeChar start = some (name, mid) ∧
        mid.dropWhile isSpace = '=' :: equals ∧
        quotedValue (equals.dropWhile isSpace) = some (value, rest) := by
  simp only [tagAttribute, Option.bind_eq_bind, Option.bind_eq_some_iff, Prod.exists,
    dropStart?_eq_some, Option.some.injEq, Prod.mk.injEq, List.singleton_append]
  constructor
  · rintro ⟨⟨⟩, start, hs, name, mid, hw, equals, he, value, left, hq, rfl, rfl⟩
    exact ⟨start, name, mid, equals, value, rfl, hs, hw, he, hq⟩
  · rintro ⟨start, name, mid, equals, value, rfl, hs, hw, he, hq⟩
    exact ⟨(), start, hs, name, mid, hw, equals, he, value, rest, hq, rfl, rfl⟩

theorem advances_tagAttribute : Advances tagAttribute := by
  intro cs a rest h
  obtain ⟨start, name, mid, equals, value, -, hs, hw, he, hq⟩ := tagAttribute_eq_some_iff.mp h
  have h₁ := advances_spaces hs
  have h₂ := advances_word _ hw
  have h₃ : equals <:+ mid :=
    (List.suffix_cons '=' equals).trans (he ▸ List.dropWhile_suffix isSpace)
  have h₄ := advances_quotedValue hq
  have hr : rest <:+ mid := (h₄.1.trans (List.dropWhile_suffix isSpace)).trans h₃
  exact ⟨(hr.trans h₂.1).trans h₁.1, by have := hr.length_le; omega⟩

theorem openTag_eq_some_iff {cs rest : List Char} {o : OpenTag} :
    openTag cs = some (o, rest) ↔
      ∃ start name mid attributes left, o = ⟨String.ofList (name.map Char.toLower), attributes⟩ ∧
        cs = '<' :: start ∧ tagName start = some (name, mid) ∧
        Run tagAttribute mid attributes left ∧
        (left.dropWhile isSpace = '>' :: rest ∨ left.dropWhile isSpace = '/' :: '>' :: rest) := by
  have hend (left : List Char) : (dropStart? ['/'] left).getD left = '>' :: rest ↔
      left = '>' :: rest ∨ left = '/' :: '>' :: rest := by
    cases left with
    | nil => simp [dropStart?]
    | cons c left =>
      by_cases hc : c = '/'
      · simp [dropStart?, hc]
      · simp [dropStart?, hc, Ne.symm hc]
  simp only [openTag, Option.bind_eq_bind, Option.bind_eq_some_iff, Prod.exists,
    dropStart?_eq_some, Option.some.injEq, Prod.mk.injEq, List.singleton_append]
  constructor
  · rintro ⟨start, rfl, name, mid, hw, left, he, rfl, rfl⟩
    exact ⟨start, name, mid, _, _, rfl, rfl, hw, (repeated_eq_iff advances_tagAttribute).mp rfl,
      (hend _).mp he⟩
  · rintro ⟨start, name, mid, attributes, left, rfl, rfl, hw, hr, he⟩
    have hp := (repeated_eq_iff advances_tagAttribute).mpr hr
    exact ⟨start, rfl, name, mid, hw, rest, by rw [hp]; exact (hend _).mpr he, by rw [hp], rfl⟩

theorem advances_openTag : Advances openTag := by
  intro cs o rest h
  obtain ⟨start, name, mid, attributes, left, -, rfl, hw, hr, he⟩ := openTag_eq_some_iff.mp h
  have h₁ := (advances_word _ hw).1
  have h₂ := hr.suffix advances_tagAttribute
  have h₃ : rest <:+ left := by
    refine List.IsSuffix.trans ?_ (List.dropWhile_suffix isSpace)
    rcases he with he | he
    · exact he ▸ List.suffix_cons _ _
    · exact he ▸ (List.suffix_cons _ _).trans (List.suffix_cons _ _)
  have hs : rest <:+ start := (h₃.trans h₂).trans h₁
  exact ⟨hs.trans (List.suffix_cons _ _), Nat.lt_succ_of_le hs.length_le⟩

theorem closeTag_eq_some_iff {cs rest : List Char} {tag : String} :
    closeTag cs = some (tag, rest) ↔
      ∃ start name mid, tag = String.ofList (name.map Char.toLower) ∧ cs = '<' :: '/' :: start ∧
        tagName start = some (name, mid) ∧ mid.dropWhile isSpace = '>' :: rest := by
  simp only [closeTag, Option.bind_eq_bind, Option.bind_eq_some_iff, Prod.exists,
    dropStart?_eq_some, Option.some.injEq, Prod.mk.injEq, List.cons_append, List.nil_append]
  constructor
  · rintro ⟨start, rfl, name, mid, hw, left, he, rfl, rfl⟩
    exact ⟨start, name, mid, rfl, rfl, hw, he⟩
  · rintro ⟨start, name, mid, rfl, rfl, hw, he⟩
    exact ⟨start, rfl, name, mid, hw, rest, he, rfl, rfl⟩

theorem advances_closeTag : Advances closeTag := by
  intro cs tag rest h
  obtain ⟨start, name, mid, -, rfl, hw, he⟩ := closeTag_eq_some_iff.mp h
  have h₁ := (advances_word _ hw).1
  have h₂ : rest <:+ mid := (List.suffix_cons '>' rest).trans (he ▸ List.dropWhile_suffix isSpace)
  have hs : rest <:+ start := h₂.trans h₁
  refine ⟨(hs.trans (List.suffix_cons _ _)).trans (List.suffix_cons _ _), ?_⟩
  have hl := hs.length_le
  simp only [List.length_cons]
  omega

end WikiMessage.Markup
