import WikiMessage.Markup.Sanitize
import WikiMessage.Proofs.Markup.Lexical
import WikiMessage.Proofs.Text.Ascii

/-!
# Names on the allowlist

What it means that an element is allowed, and the shape of the names on the allowlist: each is a
letter and then letters, digits or hyphens, all of them of ASCII. The names that are read in a tag
are in small letters already.
-/

namespace WikiMessage.Markup

open WikiMessage.Text Rule

/-- An attribute as it is written in a tag, with a blank in front. -/
def Attribute.print (a : Attribute) : List Char :=
  ' ' :: a.name.toList ++ "=\"".toList ++ a.value.toList ++ ['\x22']

theorem isAllowedElement_iff {tag : String} {attributes : List Attribute} :
    isAllowedElement tag attributes = true ↔
      lowerAscii tag ∈ allowedElements ∧
        ∀ a ∈ attributes, isAllowedAttribute (lowerAscii tag) a = true := by
  simp [isAllowedElement]

theorem isAllowedAttribute_iff {tag : String} {a : Attribute} :
    isAllowedAttribute tag a = true ↔
      (lowerAscii a.name ∈ commonAttributes ∨ lowerAscii a.name ∈ ownAttributes tag) ∧
        ¬(lowerAscii a.name = "style" ∧ isDangerousStyle a.value = true) := by
  simp only [isAllowedAttribute, Bool.and_eq_true, Bool.or_eq_true, List.contains_iff_mem,
    Bool.not_eq_true', ← Bool.not_eq_true, decide_eq_true_eq]

/-- A letter and characters of class `more`. -/
def isWord (more : Char → Bool) : List Char → Bool
  | [] => false
  | c :: cs => c.isAlpha && cs.all more

theorem isWord_iff {more : Char → Bool} {cs : List Char} :
    isWord more cs = true ↔
      ∃ c tail, cs = c :: tail ∧ c.isAlpha = true ∧ ∀ d ∈ tail, more d = true := by
  cases cs with
  | nil => simp [isWord]
  | cons c cs =>
    rw [isWord, Bool.and_eq_true, List.all_eq_true]
    constructor
    · rintro ⟨hc, ht⟩
      exact ⟨c, cs, rfl, hc, ht⟩
    · rintro ⟨d, tail, he, hc, ht⟩
      obtain ⟨rfl, rfl⟩ := List.cons.inj he
      exact ⟨hc, ht⟩

theorem word_append {more : Char → Bool} {cs rest : List Char} (h : isWord more cs = true)
    (hr : ∀ c ∈ rest.head?, more c = false) : word more (cs ++ rest) = some (cs, rest) := by
  obtain ⟨c, tail, rfl, hc, ht⟩ := isWord_iff.mp h
  exact word_eq_some_iff.mpr ⟨c, tail, rfl, rfl, hc, ht, hr⟩

theorem isWord_of_mem_allowedElements : ∀ tag ∈ allowedElements,
    isWord Char.isAlphanum tag.toList = true := by decide +kernel

theorem isWord_of_mem_commonAttributes : ∀ name ∈ commonAttributes,
    isWord isAttributeChar name.toList = true := by decide +kernel

theorem isWord_of_mem_ownAttributes (tag : String) : ∀ name ∈ ownAttributes tag,
    isWord isAttributeChar name.toList = true := by
  unfold ownAttributes
  split <;> decide

theorem isWord_of_isAllowedAttribute {tag : String} {a : Attribute}
    (h : isAllowedAttribute tag a = true) :
    isWord isAttributeChar (lowerAscii a.name).toList = true := by
  rcases (isAllowedAttribute_iff.mp h).1 with h | h
  · exact isWord_of_mem_commonAttributes _ h
  · exact isWord_of_mem_ownAttributes tag _ h

theorem lowerAscii_ofList_map_toLower (cs : List Char) :
    lowerAscii (String.ofList (cs.map Char.toLower)) = String.ofList (cs.map Char.toLower) := by
  have hl : String.ofList (cs.map Char.toLower) = lowerAscii (String.ofList cs) := by
    rw [lowerAscii, String.toList_ofList]
  rw [hl, lowerAscii_lowerAscii]

theorem lowerAscii_tag_of_openTag {cs rest : List Char} {o : OpenTag}
    (h : openTag cs = some (o, rest)) : lowerAscii o.tag = o.tag := by
  obtain ⟨start, name, mid, attributes, left, rfl, -⟩ := openTag_eq_some_iff.mp h
  exact lowerAscii_ofList_map_toLower name

theorem lowerAscii_name_of_openTag {cs rest : List Char} {o : OpenTag}
    (h : openTag cs = some (o, rest)) : ∀ a ∈ o.attributes, lowerAscii a.name = a.name := by
  obtain ⟨start, name, mid, attributes, left, rfl, -, -, hr, -⟩ := openTag_eq_some_iff.mp h
  refine hr.forall_mem fun cs a rest ha => ?_
  obtain ⟨start, name, mid, equals, value, rfl, -⟩ := tagAttribute_eq_some_iff.mp ha
  exact lowerAscii_ofList_map_toLower name

end WikiMessage.Markup
