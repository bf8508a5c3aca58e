import WikiMessage.Proofs.Markup.Failure
import WikiMessage.Proofs.Markup.Sanitized
import WikiMessage.Proofs.Markup.Style

/-!
# Messages of text and elements

A message without backslashes, dollar signs and braces, and without brackets if they make links,
holds no construct but elements. It can always be read, and its tree consists of texts, of elements
in small letters and of sequences of these.
-/

namespace WikiMessage.Markup

open WikiMessage.Text Rule

/-- A character with which neither an escape nor a construct other than an element begins. -/
def isHtmlChar (links : Bool) (c : Char) : Bool :=
  !(c = '\\' || c = '$' || c = '{' || c = '}' || links && (c = '[' || c = ']'))

/-- A tree of texts and elements, with plain characters in the texts and small letters in the
tags. -/
inductive IsHtml (links : Bool) : Node → Prop
  | text {content : String} (h : ∀ c ∈ content.toList, (Scope.top links).isPlain c = true) :
      IsHtml links (.text content)
  | seq {children : List Node} (h : ∀ n ∈ children, IsHtml links n) : IsHtml links (.seq children)
  | element {tag : String} {attributes : List Attribute} {children : List Node}
      (ha : isAllowedElement tag attributes = true) (ht : lowerAscii tag = tag)
      (hn : ∀ a ∈ attributes, lowerAscii a.name = a.name) (h : ∀ n ∈ children, IsHtml links n) :
      IsHtml links (.element tag attributes children)

variable {links : Bool} {cs rest : List Char} {node : Node}

theorem isPlain_top_iff {c : Char} :
    (Scope.top links).isPlain c = true ↔ isHtmlChar links c = true ∧ c ≠ '<' := by
  simp only [Scope.isPlain, Scope.top, isHtmlChar]
  grind

theorem ne_of_isHtmlChar {c : Char} (h : isHtmlChar links c = true) :
    c ≠ '\\' ∧ c ≠ '$' ∧ c ≠ '{' := by
  simp only [isHtmlChar] at h
  grind

theorem ne_bracket_of_isHtmlChar {c : Char} (h : isHtmlChar links c = true)
    (hl : links = true) : c ≠ '[' := by
  rintro rfl
  subst hl
  cases h

/-- Outside of arguments the same characters are plain as at the top. -/
theorem Scope.isPlain_eq_top {s : Scope} (hl : s.links = links) (ha : s.inArgument = false) :
    s.isPlain = (Scope.top links).isPlain := by
  funext c
  simp [Scope.isPlain, Scope.top, hl, ha]

theorem isPlain_of_mem_textChar {c : Char} (h : isHtmlChar links c = true) :
    ∀ d ∈ textChar c, (Scope.top links).isPlain d = true := by
  unfold textChar
  split
  · exact List.all_eq_true.mp (by cases links <;> rfl)
  · rename_i hc
    exact List.forall_mem_singleton.mpr (isPlain_top_iff.mpr ⟨h, hc⟩)

theorem isPlain_of_mem_escapeChars (h : ∀ c ∈ cs, isHtmlChar links c = true) :
    ∀ c ∈ escapeChars cs, (Scope.top links).isPlain c = true := by
  intro c hc
  refine isPlain_top_iff.mpr ⟨?_, fun he => not_mem_escapeChars (.inl rfl) cs (he ▸ hc)⟩
  obtain ⟨d, hd, hc⟩ := List.mem_flatMap.mp hc
  rcases escapeChar_cases d with he | ⟨name, hm, he⟩
  · rw [he, List.mem_singleton] at hc
    exact hc ▸ h d hd
  · have hn : ∀ name ∈ referenceNames, ('&' :: (name ++ [';'])).all (isHtmlChar links) = true := by
      cases links <;> decide
    exact List.all_eq_true.mp (hn name hm) c (he ▸ hc)

theorem isHtml_textRun {plain : Char → Bool} (h : ∀ c ∈ cs, isHtmlChar links c = true)
    (hr : textRun plain cs = some (node, rest)) : IsHtml links node := by
  obtain ⟨content, rfl, hc⟩ := exists_content_of_textRun hr
  refine .text fun c hm => ?_
  obtain ⟨d, hd, hm⟩ := hc c hm
  exact isPlain_of_mem_textChar (h d hd) c hm

theorem isHtml_stray {s : Scope} (h : ∀ c ∈ cs, isHtmlChar links c = true)
    (hr : stray s cs = some (node, rest)) : IsHtml links node := by
  obtain ⟨c, rfl, -, rfl⟩ := stray_eq_some_iff.mp hr
  exact .text (by simpa using isPlain_of_mem_textChar (h c List.mem_cons_self))

theorem isHtml_escapedTag (h : ∀ c ∈ cs, isHtmlChar links c = true) (rest : List Char) :
    IsHtml links (escapedTag (taken cs rest)) := by
  refine .text ?_
  rw [String.toList_ofList]
  exact isPlain_of_mem_escapeChars fun c hc => h c (List.mem_of_mem_take hc)

theorem isHtml_concat {nodes : List Node} (h : ∀ n ∈ nodes, IsHtml links n) :
    IsHtml links (.concat nodes) := by
  refine .seq (Node.forall_mem_mergeTexts (fun a b ha hb => ?_) h)
  cases ha with
  | text ha =>
    cases hb with
    | text hb => exact .text (by simpa [or_imp, forall_and] using ⟨ha, hb⟩)

/-- The rule for inner expressions reads texts and elements only. -/
def InnerHtml (links : Bool) (inner : Scope → Rule Node) : Prop :=
  ∀ ⦃s cs node rest⦄, s.links = links → (∀ c ∈ cs, isHtmlChar links c = true) →
    inner s cs = some (node, rest) → IsHtml links node

section

variable {inner : Scope → Rule Node} {s : Scope}

theorem isHtml_element (hi : InnerAdvances inner) (hp : InnerHtml links inner)
    (hs : s.links = links) (h : ∀ c ∈ cs, isHtmlChar links c = true)
    (he : element inner s cs = some (node, rest)) : IsHtml links node := by
  obtain ⟨o, start, children, left, ho, hr, he⟩ := (element_eq_some_iff hi).mp he
  have hstart : ∀ c ∈ start, isHtmlChar links c = true :=
    fun c hc => h c ((advances_openTag ho).1.subset hc)
  have hleft : ∀ c ∈ left, isHtmlChar links c = true :=
    fun c hc => hstart c ((hr.suffix (hi s.element)).subset hc)
  have hc : ∀ n ∈ children, IsHtml links n :=
    hr.forall_mem_of_suffix (hi s.element) fun mid n rest hm hn =>
      hp (s := s.element) hs (fun c hc => hstart c (hm.subset hc)) hn
  have hopen := List.forall_mem_cons.mpr ⟨isHtml_escapedTag h start, hc⟩
  rcases he with ⟨-, -, rfl⟩ | ⟨name, -, ⟨-, ha, rfl⟩ | ⟨-, rfl⟩⟩
  · exact isHtml_concat hopen
  · exact .element ha (lowerAscii_tag_of_openTag ho) (lowerAscii_name_of_openTag ho) hc
  · refine isHtml_concat (List.forall_mem_append.mpr ⟨hopen, ?_⟩)
    exact List.forall_mem_singleton.mpr (isHtml_escapedTag hleft rest)

theorem isHtml_construct (hi : InnerAdvances inner) (hp : InnerHtml links inner)
    (hs : s.links = links) (h : ∀ c ∈ cs, isHtmlChar links c = true)
    (hr : construct inner s cs = some (node, rest)) : IsHtml links node := by
  rcases construct_cases hr with hr | hr | hr | hr | hr | hr | hr
  · obtain ⟨name, mid, args, -, -, -, -, rfl, -⟩ := call_eq_some_iff.mp hr
    exact absurd rfl (ne_of_isHtmlChar (h '{' List.mem_cons_self)).2.2
  · obtain ⟨ds, n, -, rfl, -⟩ := placeholder_eq_some_iff.mp hr
    exact absurd rfl (ne_of_isHtmlChar (h '$' List.mem_cons_self)).2.1
  · obtain ⟨start, target, mid, label, -, hl, -, rfl, -⟩ := (pageLink_eq_some_iff hi).mp hr
    exact absurd rfl (ne_bracket_of_isHtmlChar (h '[' List.mem_cons_self) (hs.symm.trans hl))
  · obtain ⟨start, target, mid, left, label, -, hl, -, rfl, -⟩ := (webLink_eq_some_iff hi).mp hr
    exact absurd rfl (ne_bracket_of_isHtmlChar (h '[' List.mem_cons_self) (hs.symm.trans hl))
  · exact isHtml_element hi hp hs h hr
  · exact isHtml_textRun h hr
  · exact isHtml_stray h hr

end

theorem isHtml_expression (links : Bool) (depth : Nat) : InnerHtml links (expression depth) := by
  induction depth with
  | zero =>
    intro s cs node rest _ _ h
    cases h
  | succ depth ih =>
    exact fun s cs node rest hs h hr => isHtml_construct (advances_expression depth) ih hs h hr

/-- A message of text and elements is always read, and as a tree of texts and elements. -/
theorem exists_parse_isHtml {message : String}
    (h : ∀ c ∈ message.toList, isHtmlChar links c = true) :
    ∃ tree, parse links message = .ok tree ∧ IsHtml links tree := by
  cases hp : parse links message with
  | ok tree =>
    obtain ⟨nodes, rfl, hr⟩ := parse_eq_ok_iff.mp hp
    refine ⟨_, rfl, isHtml_concat (hr.forall_mem_of_suffix (advances_expression _ _) ?_)⟩
    exact fun mid n rest hs hn => isHtml_expression links _ rfl (fun c hc => h c (hs.subset hc)) hn
  | error e =>
    obtain ⟨rest, -, hs, -, ⟨⟨inside, rfl⟩, -⟩ | rfl⟩ := rest_of_parse_error hp
    · exact absurd rfl (ne_of_isHtmlChar (h '{' (hs.subset List.mem_cons_self))).2.2
    · exact absurd rfl (ne_of_isHtmlChar (h '\\' (hs.subset List.mem_cons_self))).1

end WikiMessage.Markup
