import Mathlib.Data.List.Infix
import WikiMessage.Proofs.Markup.Allowed
import WikiMessage.Proofs.Text.Occurrence
import WikiMessage.Text.Escape

/-!
# Escaped styles

A style is judged by words in its small letters. Escaping puts character references into it, which
hold no such word themselves, and the `&` and the `;` around them stand in none. So escaping makes
no style dangerous, and an element that may be shown may also be shown with escaped values.
-/

namespace WikiMessage.Text

open LowerCase

variable {w cs : List Char}

/-- The two small forms of the capital sigma as one. -/
def joinSigma (c : Char) : Char := if c = 'ς' then 'σ' else c

/-- The small letters of a character, with one form of sigma. -/
def foldChar (c : Char) : List Char := (if c = 'Σ' then ['σ'] else lowerChar c).map joinSigma

/-- But for the form of a sigma, small letters do not depend on what stands around them. -/
theorem map_joinSigma_lowerFrom (before : Bool) (cs : List Char) :
    (lowerFrom before cs).map joinSigma = cs.flatMap foldChar := by
  induction cs generalizing before with
  | nil => rfl
  | cons c cs ih =>
    rw [lowerFrom, List.map_append, ih, List.flatMap_cons, foldChar]
    congr 1
    split
    · split <;> rfl
    · rfl

theorem map_joinSigma_eq_self (h : 'ς' ∉ w) : w.map joinSigma = w := by
  refine (List.map_congr_left fun c hc => ?_).trans (List.map_id' w)
  exact if_neg fun he : c = 'ς' => h (he ▸ hc)

theorem infix_lowerChars_iff (h : 'σ' ∉ w) (h' : 'ς' ∉ w) :
    w <:+: lowerChars cs ↔ w <:+: cs.flatMap foldChar := by
  rw [← map_joinSigma_lowerFrom false]
  constructor
  · intro hw
    have hw := hw.map joinSigma
    rwa [map_joinSigma_eq_self h'] at hw
  · intro hw
    obtain ⟨v, hv, rfl⟩ := List.infix_map_iff.mp hw
    have hn : 'ς' ∉ v := fun hm => h (List.mem_map.mpr ⟨'ς', hm, rfl⟩)
    rwa [map_joinSigma_eq_self hn]

/-- What stands between the `&` and the `;` of the references that escaping makes. -/
def referenceNames : List (List Char) :=
  ["amp".toList, "lt".toList, "gt".toList, "quot".toList, "#039".toList]

theorem escapeChar_cases (c : Char) :
    escapeChar c = [c] ∨ ∃ name ∈ referenceNames, escapeChar c = '&' :: (name ++ [';']) := by
  unfold escapeChar
  split
  · exact .inr ⟨"amp".toList, by simp [referenceNames], rfl⟩
  split
  · exact .inr ⟨"lt".toList, by simp [referenceNames], rfl⟩
  split
  · exact .inr ⟨"gt".toList, by simp [referenceNames], rfl⟩
  split
  · exact .inr ⟨"quot".toList, by simp [referenceNames], rfl⟩
  split
  · exact .inr ⟨"#039".toList, by simp [referenceNames], rfl⟩
  · exact .inl rfl

theorem flatMap_foldChar_reference : ∀ name ∈ referenceNames,
    ('&' :: (name ++ [';'])).flatMap foldChar = '&' :: (name ++ [';']) := by decide +kernel

/-- A word stands before or behind a character that it does not have. -/
theorem infix_or_infix_of_not_mem {c : Char} {before after : List Char} (hc : c ∉ w)
    (h : w <:+: before ++ c :: after) : w <:+: before ∨ w <:+: after := by
  have hp {v : List Char} (hv : c ∉ v) (h : v <+: c :: after) : v = [] := by
    rcases List.prefix_cons_iff.mp h with rfl | ⟨t, rfl, -⟩
    · rfl
    · exact absurd List.mem_cons_self hv
  rcases List.infix_append_iff.mp h with h | h | ⟨v, v', rfl, hs, h⟩
  · exact .inl h
  · rcases List.infix_cons_iff.mp h with h | h
    · rw [hp hc h]
      exact .inl List.nil_infix
    · exact .inr h
  · rw [hp (fun hm => hc (List.mem_append_right v hm)) h, List.append_nil]
    exact .inl hs.isInfix

/-- A word that no reference holds and that has none of the marks around references stands in the
small letters of escaped text only where it stood before. The induction moves what was not escaped
in front of the text, since the word may go on there. -/
theorem infix_of_infix_escapeChars (ha : '&' ∉ w) (hs : ';' ∉ w)
    (hn : ∀ name ∈ referenceNames, ¬w <:+: name) (before : List Char)
    (h : w <:+: before ++ (escapeChars cs).flatMap foldChar) :
    w <:+: before ++ cs.flatMap foldChar := by
  induction cs generalizing before with
  | nil => exact h
  | cons c cs ih =>
    rw [escapeChars_cons, List.flatMap_append] at h
    rw [List.flatMap_cons, ← List.append_assoc]
    rcases escapeChar_cases c with he | ⟨name, hm, he⟩
    · rw [he, List.flatMap_singleton, ← List.append_assoc] at h
      exact ih _ h
    · rw [he, flatMap_foldChar_reference name hm, List.cons_append, List.append_assoc,
        List.singleton_append] at h
      rcases infix_or_infix_of_not_mem ha h with h | h
      · exact List.infix_append_of_infix_left (List.infix_append_of_infix_left h)
      rcases infix_or_infix_of_not_mem hs h with h | h
      · exact absurd h (hn name hm)
      · exact List.infix_append_of_infix_right (ih [] h)

end WikiMessage.Text

namespace WikiMessage.Markup

open WikiMessage.Text

theorem startsWithMark_iff {mark : Char} {cs : List Char} (hm : isBlank mark = false) :
    startsWithMark mark cs = true ↔
      ∃ blanks after, (∀ c ∈ blanks, isBlank c = true) ∧ cs = blanks ++ mark :: after := by
  rw [startsWithMark, beq_iff_eq]
  constructor
  · intro h
    obtain ⟨after, ha⟩ := List.head?_eq_some_iff.mp h
    obtain ⟨hs, hb, -⟩ := span_iff.mp ⟨rfl, ha⟩
    exact ⟨_, after, hb, hs⟩
  · rintro ⟨blanks, after, hb, hs⟩
    rw [(span_iff.mpr ⟨hs, hb, by simpa using hm⟩).2]
    rfl

theorem wordWithMark_iff {word : List Char} {mark : Char} {cs : List Char}
    (hw : IsUnbordered word) (hn : word ≠ []) (hm : isBlank mark = false) :
    wordWithMark word mark cs = true ↔
      ∃ blanks, (∀ c ∈ blanks, isBlank c = true) ∧ word ++ blanks ++ [mark] <:+: cs := by
  simp only [wordWithMark, List.any_eq_true, hw.mem_restsBehind_iff hn, startsWithMark_iff hm]
  constructor
  · rintro ⟨_, ⟨before, rfl⟩, blanks, after, hb, rfl⟩
    exact ⟨blanks, hb, before, after, by simp⟩
  · rintro ⟨blanks, hb, before, after, rfl⟩
    exact ⟨blanks ++ mark :: after, ⟨before, by simp⟩, blanks, after, hb, rfl⟩

/-- The words that a style may not hold: a dangerous one with its mark, or `expression`. -/
def IsDangerousWord (w : List Char) : Prop :=
  w = "expression".toList ∨ ∃ p ∈ dangerousWords, ∃ blanks, (∀ c ∈ blanks, isBlank c = true) ∧
    w = p.1.toList ++ blanks ++ [p.2]

/-- No dangerous word overlaps itself, and its mark is no blank. -/
theorem isUnbordered_of_mem {p : String × Char} (h : p ∈ dangerousWords) :
    IsUnbordered p.1.toList ∧ p.1.toList ≠ [] ∧ isBlank p.2 = false := by
  have hall : ∀ p ∈ dangerousWords,
      IsUnbordered p.1.toList ∧ p.1.toList ≠ [] ∧ isBlank p.2 = false := by decide
  exact hall p h

/-- The mark of a dangerous word is found behind blanks, wherever the word stands. -/
theorem wordWithMark_iff_of_mem {p : String × Char} (h : p ∈ dangerousWords) {cs : List Char} :
    wordWithMark p.1.toList p.2 cs = true ↔
      ∃ blanks, (∀ c ∈ blanks, isBlank c = true) ∧ p.1.toList ++ blanks ++ [p.2] <:+: cs :=
  let ⟨hw, hn, hm⟩ := isUnbordered_of_mem h
  wordWithMark_iff hw hn hm

theorem isDangerousStyle_iff {style : String} :
    isDangerousStyle style = true ↔
      (∃ c ∈ style.toList, isStyleControl c = true) ∨
        ∃ w, IsDangerousWord w ∧ w <:+: lowerChars style.toList := by
  have hx : occursIn "expression".toList (lowerChars style.toList) = true ↔
      "expression".toList <:+: lowerChars style.toList := by
    rw [occursIn_iff, List.IsInfix]
    simp only [eq_comm]
  simp only [isDangerousStyle, Bool.or_eq_true, List.any_eq_true, hx, IsDangerousWord, or_assoc]
  refine or_congr Iff.rfl ?_
  constructor
  · rintro (h | ⟨p, hp, h⟩)
    · exact ⟨_, .inl rfl, h⟩
    · obtain ⟨blanks, hb, h⟩ := (wordWithMark_iff_of_mem hp).mp h
      exact ⟨_, .inr ⟨p, hp, blanks, hb, rfl⟩, h⟩
  · rintro ⟨w, rfl | ⟨p, hp, blanks, hb, rfl⟩, h⟩
    · exact .inl h
    · exact .inr ⟨p, hp, (wordWithMark_iff_of_mem hp).mpr ⟨blanks, hb, h⟩⟩

/-- The marks around references, and the letters whose form depends on what stands around them. -/
def isForeign (c : Char) : Bool := c = '&' || c = ';' || c = 'σ' || c = 'ς'

theorem isForeign_of_isBlank {c : Char} (h : isBlank c = true) : isForeign c = false := by
  rw [← Bool.not_eq_true]
  intro hf
  simp only [isForeign, Bool.or_eq_true, decide_eq_true_eq] at hf
  rcases hf with ((rfl | rfl) | rfl) | rfl <;> exact absurd h (by decide)

/-- A dangerous word has no foreign character, and it is no part of a reference. -/
theorem IsDangerousWord.apart {w : List Char} (h : IsDangerousWord w) :
    (∀ c ∈ w, isForeign c = false) ∧ ∀ name ∈ referenceNames, ¬w <:+: name := by
  have hall {cs : List Char} (h : cs.all (!isForeign ·) = true) :
      ∀ c ∈ cs, isForeign c = false := by
    simpa only [List.all_eq_true, Bool.not_eq_true'] using h
  have hw : ∀ p ∈ dangerousWords, p.1.toList.all (!isForeign ·) = true ∧ isForeign p.2 = false ∧
      ∀ name ∈ referenceNames, ¬p.1.toList <:+: name := by decide
  rcases h with rfl | ⟨p, hp, blanks, hb, rfl⟩
  · exact ⟨hall (by decide), by decide⟩
  · obtain ⟨hc, hm, hn⟩ := hw p hp
    constructor
    · have hb' : ∀ c ∈ blanks, isForeign c = false := fun c hc => isForeign_of_isBlank (hb c hc)
      have hps := List.forall_mem_append.mpr ⟨hall hc, hb'⟩
      exact List.forall_mem_append.mpr ⟨hps, List.forall_mem_singleton.mpr hm⟩
    · intro name hname hi
      refine hn name hname (List.IsInfix.trans ?_ hi)
      rw [List.append_assoc]
      exact (List.prefix_append _ _).isInfix

theorem IsDangerousWord.not_mem {w : List Char} (h : IsDangerousWord w) {c : Char}
    (hc : isForeign c = true) : c ∉ w := by
  intro hm
  rw [h.apart.1 c hm] at hc
  cases hc

/-- Dangerous words are looked for letter by letter: no sigma stands in one. -/
theorem IsDangerousWord.infix_lowerChars_iff {w cs : List Char} (h : IsDangerousWord w) :
    w <:+: lowerChars cs ↔ w <:+: cs.flatMap foldChar :=
  Text.infix_lowerChars_iff (h.not_mem rfl) (h.not_mem rfl)

theorem isDangerousStyle_of_escape {style : String} (h : isDangerousStyle (escape style) = true) :
    isDangerousStyle style = true := by
  rw [isDangerousStyle_iff, toList_escape] at h
  rw [isDangerousStyle_iff]
  rcases h with ⟨c, hc, hs⟩ | ⟨w, hw, h⟩
  · refine .inl ⟨c, ?_, hs⟩
    obtain ⟨d, hd, hc⟩ := List.mem_flatMap.mp hc
    rcases escapeChar_cases d with he | ⟨name, hm, he⟩
    · rw [he, List.mem_singleton] at hc
      exact hc ▸ hd
    · have hn : ∀ name ∈ referenceNames,
          ('&' :: (name ++ [';'])).all (!isStyleControl ·) = true := by decide
      have hc := List.all_eq_true.mp (hn name hm) c (he ▸ hc)
      rw [hs] at hc
      cases hc
  · refine .inr ⟨w, hw, ?_⟩
    rw [hw.infix_lowerChars_iff] at h ⊢
    exact infix_of_infix_escapeChars (hw.not_mem rfl) (hw.not_mem rfl) hw.apart.2 [] h

/-- An attribute with its value escaped, as it is rendered. -/
def Attribute.escaped (a : Attribute) : Attribute := ⟨a.name, escape a.value⟩

theorem isAllowedElement_escaped {tag : String} {attributes : List Attribute}
    (h : isAllowedElement tag attributes = true) :
    isAllowedElement tag (attributes.map Attribute.escaped) = true := by
  obtain ⟨ht, ha⟩ := isAllowedElement_iff.mp h
  refine isAllowedElement_iff.mpr ⟨ht, fun b hb => ?_⟩
  obtain ⟨a, hm, rfl⟩ := List.mem_map.mp hb
  obtain ⟨hn, hs⟩ := isAllowedAttribute_iff.mp (ha a hm)
  exact isAllowedAttribute_iff.mpr
    ⟨hn, fun ⟨he, hd⟩ => hs ⟨he, isDangerousStyle_of_escape hd⟩⟩

end WikiMessage.Markup
