import WikiMessage.Proofs.Markup.Allowed
import WikiMessage.Proofs.Markup.Constructs
import WikiMessage.Proofs.Markup.Source

/-!
# Where canonical sources begin and end

A canonical construct is known by its first character, and what may follow it in a scope cannot
continue it: another construct, or what ends the scope. Texts, placeholders and tags are thus read
up to their own end, and a rule that reads each construct of a sequence back reads the sequence.
-/

namespace WikiMessage.Markup

open WikiMessage.Text Rule
open Source (print printAll printBars node nodes Separated IsCallName IsTag Canonical)

theorem run_escaped {plain : Char → Bool} {rest : List Char} (h : plainChar plain rest = none)
    (cs : List Char) :
    Run (plainChar plain) (cs.flatMap (fun c => ['\\', c]) ++ rest) (cs.map textChar) rest := by
  induction cs with
  | nil => exact .stop h
  | cons c cs ih => exact .step (plainChar_eq_some_iff.mpr ⟨c, rfl, .inl rfl⟩) ih

theorem textRun_print {plain : Char → Bool} {rest : List Char} (h : plainChar plain rest = none)
    {content : String} (hn : content ≠ "") :
    textRun plain (print (.text content) ++ rest) = some (node (.text content), rest) := by
  refine textRun_eq_some_iff.mpr ⟨content.toList.map textChar, rfl, ?_, run_escaped h _⟩
  simpa using hn

theorem placeholder_print {index : Nat} {rest : List Char}
    (hb : index + 1 < Numeral.unsignedBound) (hr : ∀ c ∈ rest.head?, c.isDigit = false) :
    placeholder (print (.placeholder index) ++ rest) = some (node (.placeholder index), rest) := by
  refine placeholder_eq_some_iff.mpr
    ⟨Numeral.digits (index + 1), index, rfl, rfl, fun c hc => ?_, hr, Numeral.value_digits _, hb⟩
  exact Nat.isDigit_of_mem_toDigits (by decide) (by decide) hc

theorem isSpace_of_isAlpha {c : Char} (h : c.isAlpha = true) : isSpace c = false := by
  cases hs : isSpace c with
  | false => rfl
  | true =>
    simp only [isSpace, Bool.or_eq_true, decide_eq_true_eq] at hs
    rcases hs with ((rfl | rfl) | rfl) | rfl <;> cases h

theorem tagAttribute_print {a : Attribute} (hw : isWord isAttributeChar a.name.toList = true)
    (hl : lowerAscii a.name = a.name) (hv : '\x22' ∉ a.value.toList) (rest : List Char) :
    tagAttribute (a.print ++ rest) = some (a, rest) := by
  obtain ⟨c, tail, hc, ha, -⟩ := isWord_iff.mp hw
  refine tagAttribute_eq_some_iff.mpr ⟨a.name.toList ++ '=' :: '\x22' :: (a.value.toList ++
    '\x22' :: rest), a.name.toList, '=' :: '\x22' :: (a.value.toList ++ '\x22' :: rest),
    '\x22' :: (a.value.toList ++ '\x22' :: rest), a.value.toList, ?_, ?_, ?_, rfl, ?_⟩
  · rw [← lowerAscii, hl, String.ofList_toList]
  · refine spaces_eq_some_iff.mpr ⟨[' '], by simp, by simp [Attribute.print], by simp [isSpace], ?_⟩
    rw [hc]
    simpa using isSpace_of_isAlpha ha
  · exact word_append hw (by simp [isAttributeChar])
  · exact quotedValue_eq_some_iff.mpr ⟨'\x22', .inl rfl, hv, rfl⟩

theorem run_printAttributes {attributes : List Attribute}
    (hw : ∀ a ∈ attributes, isWord isAttributeChar a.name.toList = true)
    (hl : ∀ a ∈ attributes, lowerAscii a.name = a.name)
    (hv : ∀ a ∈ attributes, '\x22' ∉ a.value.toList) (rest : List Char) :
    Run tagAttribute (attributes.flatMap Attribute.print ++ '>' :: rest) attributes
      ('>' :: rest) := by
  induction attributes with
  | nil => exact .stop rfl
  | cons a attributes ih =>
    obtain ⟨hw, hw'⟩ := List.forall_mem_cons.mp hw
    obtain ⟨hl, hl'⟩ := List.forall_mem_cons.mp hl
    obtain ⟨hv, hv'⟩ := List.forall_mem_cons.mp hv
    rw [List.flatMap_cons, List.append_assoc]
    exact .step (tagAttribute_print hw hl hv _) (ih hw' hl' hv')

theorem closeTag_of_isWord {tag : String} (hl : lowerAscii tag = tag)
    (hw : isWord Char.isAlphanum tag.toList = true) (rest : List Char) :
    closeTag ('<' :: '/' :: (tag.toList ++ '>' :: rest)) = some (tag, rest) := by
  refine closeTag_eq_some_iff.mpr ⟨_, tag.toList, '>' :: rest, ?_, rfl, ?_, rfl⟩
  · rw [← lowerAscii, hl]
  · exact word_append hw (by simp)

section

variable {tag : String} {attributes : List Attribute}

theorem isWord_of_isTag (h : IsTag tag attributes) : isWord Char.isAlphanum tag.toList = true :=
  isWord_of_mem_allowedElements tag (h.tag_lower ▸ (isAllowedElement_iff.mp h.allowed).1)

theorem isWord_name_of_isTag (h : IsTag tag attributes) :
    ∀ a ∈ attributes, isWord isAttributeChar a.name.toList = true := by
  intro a ha
  have hw := isWord_of_isAllowedAttribute ((isAllowedElement_iff.mp h.allowed).2 a ha)
  rwa [h.name_lower a ha] at hw

theorem openTag_print (h : IsTag tag attributes) (rest : List Char) :
    openTag ('<' :: (tag.toList ++ (attributes.flatMap Attribute.print ++ '>' :: rest))) =
      some (⟨tag, attributes⟩, rest) := by
  have hr : ∀ c ∈ (attributes.flatMap Attribute.print ++ '>' :: rest).head?,
      c.isAlphanum = false := by
    cases attributes <;> simp [Attribute.print]
  refine openTag_eq_some_iff.mpr ⟨_, tag.toList, _, attributes, _, ?_, rfl, ?_,
    run_printAttributes (isWord_name_of_isTag h) h.name_lower h.value rest, .inl rfl⟩
  · rw [← lowerAscii, h.tag_lower]
  · exact word_append (isWord_of_isTag h) hr

theorem closeTag_print (h : IsTag tag attributes) (rest : List Char) :
    closeTag ('<' :: '/' :: (tag.toList ++ '>' :: rest)) = some (tag, rest) :=
  closeTag_of_isWord h.tag_lower (isWord_of_isTag h) rest

end

/-- The text that follows a construct does not continue it. -/
def EndsBefore (plain : Char → Bool) : Source → List Char → Prop
  | .text _, rest => plainChar plain rest = none
  | .placeholder _, rest => ∀ c ∈ rest.head?, c.isDigit = false
  | _, _ => True

theorem endsBefore_of_closed {plain : Char → Bool} {rest : List Char}
    (hp : plainChar plain rest = none) (hd : ∀ c ∈ rest.head?, c.isDigit = false) (e : Source) :
    EndsBefore plain e rest := by
  cases e with
  | text content => exact hp
  | placeholder index => exact hd
  | _ => trivial

/-- The source of a construct begins with a backslash if it is a text, and otherwise with a
character that stands in no text of class `plain`. -/
structure StartsWith (plain : Char → Bool) (e : Source) (c : Char) : Prop where
  print_eq : ∃ tail, e.print = c :: tail
  not_digit : c.isDigit = false
  not_space : isSpace c = false
  of_text : e.isText = true → c = '\\'
  apart : e.isText = false → c ≠ '\\' ∧ plain c = false

theorem startsWith_of_canonical {plain : Char → Bool} {links : Bool} {e : Source}
    (hb : plain '{' = false) (hd : plain '$' = false) (ha : plain '<' = false)
    (hl : links = true → plain '[' = false) (h : Canonical links e) :
    ∃ c, StartsWith plain e c := by
  cases h with
  | @text _ content hn =>
    obtain ⟨c, cs, hc⟩ := List.exists_cons_of_ne_nil (mt String.toList_eq_nil_iff.mp hn)
    refine ⟨'\\', ⟨c :: cs.flatMap fun c => ['\\', c], ?_⟩, rfl, rfl, fun _ => rfl, nofun⟩
    simp [print, hc]
  | placeholder _ => exact ⟨'$', ⟨_, rfl⟩, rfl, rfl, nofun, fun _ => ⟨by decide, hd⟩⟩
  | @call _ name args _ _ _ =>
    cases args with
    | nil => exact ⟨'{', ⟨_, rfl⟩, rfl, rfl, nofun, fun _ => ⟨by decide, hb⟩⟩
    | cons a as => exact ⟨'{', ⟨_, rfl⟩, rfl, rfl, nofun, fun _ => ⟨by decide, hb⟩⟩
  | element _ _ _ => exact ⟨'<', ⟨_, rfl⟩, rfl, rfl, nofun, fun _ => ⟨by decide, ha⟩⟩
  | pageLink _ _ _ _ => exact ⟨'[', ⟨_, rfl⟩, rfl, rfl, nofun, fun _ => ⟨by decide, hl rfl⟩⟩
  | labelledLink _ _ _ _ _ _ _ =>
    exact ⟨'[', ⟨_, rfl⟩, rfl, rfl, nofun, fun _ => ⟨by decide, hl rfl⟩⟩
  | webLink _ _ _ _ _ _ _ => exact ⟨'[', ⟨_, rfl⟩, rfl, rfl, nofun, fun _ => ⟨by decide, hl rfl⟩⟩

theorem startsWith_of_canonical_false {plain : Char → Bool} {e : Source}
    (hb : plain '{' = false) (hd : plain '$' = false) (ha : plain '<' = false)
    (h : Canonical false e) : ∃ c, StartsWith plain e c :=
  startsWith_of_canonical hb hd ha (fun hl => absurd hl Bool.false_ne_true) h

/-- A construct ends before the next one of a sequence without neighbouring texts. -/
theorem endsBefore_next {plain : Char → Bool} {e e' : Source} (hs : ¬(e.isText ∧ e'.isText))
    (h : ∃ c, StartsWith plain e' c) (rest : List Char) :
    EndsBefore plain e (e'.print ++ rest) := by
  obtain ⟨c, ⟨tail, hc⟩, hd, -, -, hn⟩ := h
  rw [hc]
  cases e with
  | text content =>
    obtain ⟨hb, hp⟩ := hn (Bool.eq_false_iff.mpr fun ht => hs ⟨rfl, ht⟩)
    exact plainChar_eq_none_iff.mpr (.inr (.inr ⟨c, tail ++ rest, rfl, hb, hp⟩))
  | placeholder index => simpa [EndsBefore] using hd
  | _ => trivial

/-- A rule that reads back each construct of a sequence reads back the sequence, if what follows
continues none of them. -/
theorem run_printAll {rule : Rule Node} {plain : Char → Bool} {es : List Source} {rest : List Char}
    (hr : rule rest = none) (hp : plainChar plain rest = none)
    (hd : ∀ c ∈ rest.head?, c.isDigit = false) (hs : Separated es)
    (ha : ∀ e ∈ es, ∃ c, StartsWith plain e c)
    (he : ∀ e ∈ es, ∀ rest, EndsBefore plain e rest →
      rule (e.print ++ rest) = some (e.node, rest)) :
    Run rule (printAll es ++ rest) (nodes es) rest := by
  induction es with
  | nil => exact .stop hr
  | cons e es ih =>
    obtain ⟨-, ha'⟩ := List.forall_mem_cons.mp ha
    obtain ⟨he, he'⟩ := List.forall_mem_cons.mp he
    rw [printAll, nodes, List.append_assoc]
    refine .step (he _ ?_) (ih hs.tail ha' he')
    cases es with
    | nil => exact endsBefore_of_closed hp hd e
    | cons e' es =>
      rw [printAll, List.append_assoc]
      exact endsBefore_next hs.rel (ha' e' List.mem_cons_self) _

/-- What ends a sequence in a scope. -/
inductive Closes (s : Scope) : List Char → Prop
  | done : Closes s []
  | bar {cs : List Char} (h : s.inArgument = true) : Closes s ('|' :: cs)
  | brace {cs : List Char} (h : s.inArgument = true) : Closes s ('}' :: cs)
  | closingTag {cs : List Char} (h : s.inElement = true) : Closes s ('<' :: '/' :: cs)
  | bracket {cs : List Char} (hl : s.links = true) (h : s.inLabel = true) : Closes s (']' :: cs)

theorem Closes.plainChar_eq_none {s : Scope} {cs : List Char} (h : Closes s cs) :
    plainChar s.isPlain cs = none := by
  cases h with
  | done => rfl
  | bar h => simp [plainChar, Scope.isPlain, h]
  | brace h => rfl
  | closingTag h => rfl
  | bracket hl h => simp [plainChar, Scope.isPlain, hl]

theorem Closes.isDigit_head {s : Scope} {cs : List Char} (h : Closes s cs) :
    ∀ c ∈ cs.head?, c.isDigit = false := by
  cases h <;> simp

theorem openTag_slash (cs : List Char) : openTag ('<' :: '/' :: cs) = none := by
  refine Option.eq_none_iff_forall_ne_some.mpr fun p hp => ?_
  obtain ⟨start, name, mid, attributes, left, -, he, hw, -⟩ := openTag_eq_some_iff.mp hp
  obtain ⟨c, tail, -, rfl, ha, -⟩ := word_eq_some_iff.mp hw
  obtain ⟨rfl, -⟩ := List.cons.inj (List.cons.inj he).2
  cases ha

/-- No expression begins where a sequence ends. -/
theorem Closes.construct_eq_none {inner : Scope → Rule Node} (hi : InnerAdvances inner) {s : Scope}
    {cs : List Char} (h : Closes s cs) : construct inner s cs = none := by
  have ht := textRun_eq_none_iff.mpr h.plainChar_eq_none
  cases h with
  | done => exact (advances_construct hi s).nil
  | bar h => rw [construct_of_not_sigil rfl, ht]; rfl
  | brace h => rw [construct_of_not_sigil rfl, ht]; simp [stray, isStray, h]
  | closingTag h => rw [construct_angle]; simp [element, openTag_slash, stray, isStray, h]
  | bracket hl h => rw [construct_of_not_sigil rfl, ht]; simp [stray, isStray, h]

theorem Closes.expression_eq_none {s : Scope} {cs : List Char} (h : Closes s cs) (depth : Nat) :
    expression depth s cs = none := by
  cases depth with
  | zero => rfl
  | succ depth => exact h.construct_eq_none (advances_expression depth)

end WikiMessage.Markup
