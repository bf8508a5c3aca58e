import WikiMessage.Proofs.Markup.Allowed
import WikiMessage.Proofs.Text.Cluster
import WikiMessage.Proofs.Text.Reference

/-!
# Safe markup

A text is safe markup if every `<` in it belongs to the tags of an allowed element or of a link, and
these tags are properly nested. Such texts can be joined, and they can be cut where no tag is cut:
what is taken off the beginning has no `<`, and what is taken off the end has no `>`.
-/

namespace WikiMessage.Markup

open WikiMessage.Text

/-- A character that may stand between the quotes of a value. -/
def isQuotable (c : Char) : Bool := !(c = '<' || c = '>' || c = '\x22' || c = '\x27')

/-- An attribute that an element of this tag may carry as it stands. A style is judged by what a
reader makes of it. -/
structure SafeAttribute (d : Decoder) (tag : String) (a : Attribute) : Prop where
  name : a.name ∈ commonAttributes ∨ a.name ∈ ownAttributes tag
  value : ∀ c ∈ a.value.toList, isQuotable c = true
  style : a.name = "style" → isDangerousStyle (String.ofList (d.decode a.value.toList)) = false

/-- The tags that may be opened: those of allowed elements and those of links. -/
inductive SafeTag (d : Decoder) : String → List Attribute → Prop
  | element {tag : String} {attributes : List Attribute} (ht : tag ∈ allowedElements)
      (ha : ∀ a ∈ attributes, SafeAttribute d tag a) : SafeTag d tag attributes
  | link {href : String} (hh : ∀ c ∈ href.toList, isQuotable c = true) :
      SafeTag d "a" [⟨"href", href⟩]
  | titledLink {href title : String} (hh : ∀ c ∈ href.toList, isQuotable c = true)
      (ht : ∀ c ∈ title.toList, isQuotable c = true) :
      SafeTag d "a" [⟨"href", href⟩, ⟨"title", title⟩]

def opening (tag : String) (attributes : List Attribute) : List Char :=
  '<' :: tag.toList ++ attributes.flatMap Attribute.print ++ ['>']

def closing (tag : String) : List Char := "</".toList ++ tag.toList ++ ['>']

inductive SafeMarkup (d : Decoder) : List Char → Prop
  | nil : SafeMarkup d []
  | char {c : Char} {cs : List Char} (h : c ≠ '<') (hr : SafeMarkup d cs) : SafeMarkup d (c :: cs)
  | enclosed {tag : String} {attributes : List Attribute} {inner rest : List Char}
      (ht : SafeTag d tag attributes) (hi : SafeMarkup d inner) (hr : SafeMarkup d rest) :
      SafeMarkup d (opening tag attributes ++ inner ++ closing tag ++ rest)

namespace SafeMarkup

variable {d : Decoder} {cs ds : List Char}

theorem append (hc : SafeMarkup d cs) (hd : SafeMarkup d ds) : SafeMarkup d (cs ++ ds) := by
  induction hc with
  | nil => exact hd
  | char h _ ih => exact .char h ih
  | enclosed ht hi _ _ ih =>
    rw [List.append_assoc]
    exact .enclosed ht hi ih

theorem of_not_mem (h : '<' ∉ cs) : SafeMarkup d cs := by
  induction cs with
  | nil => exact .nil
  | cons c cs ih =>
    rw [List.mem_cons, not_or] at h
    exact .char (Ne.symm h.1) (ih h.2)

theorem before {start : List Char} (h : SafeMarkup d cs) (hs : '<' ∉ start) :
    SafeMarkup d (start ++ cs) := (of_not_mem hs).append h

theorem after {ending : List Char} (h : SafeMarkup d cs) (he : '<' ∉ ending) :
    SafeMarkup d (cs ++ ending) := h.append (of_not_mem he)

theorem flatMap {α : Type} {f : α → List Char} {l : List α} (h : ∀ a ∈ l, SafeMarkup d (f a)) :
    SafeMarkup d (l.flatMap f) := by
  induction l with
  | nil => exact .nil
  | cons a l ih =>
    obtain ⟨ha, hl⟩ := List.forall_mem_cons.mp h
    rw [List.flatMap_cons]
    exact ha.append (ih hl)

theorem of_cons {c : Char} (h : SafeMarkup d (c :: cs)) (hc : c ≠ '<') : SafeMarkup d cs := by
  generalize he : c :: cs = es at h
  cases h with
  | nil => cases he
  | char _ hr =>
    obtain ⟨-, rfl⟩ := List.cons.inj he
    exact hr
  | enclosed _ _ _ => exact absurd (List.cons.inj he).1 hc

/-- A text stays safe without a beginning in which no tag begins. -/
theorem of_append_right (h : SafeMarkup d (cs ++ ds)) (hc : '<' ∉ cs) : SafeMarkup d ds := by
  induction cs with
  | nil => exact h
  | cons c cs ih =>
    rw [List.mem_cons, not_or] at hc
    exact ih (h.of_cons (Ne.symm hc.1)) hc.2

/-- A text stays safe without an end in which no tag ends. -/
theorem of_append_left (h : SafeMarkup d (cs ++ ds)) (hd : '>' ∉ ds) : SafeMarkup d cs := by
  generalize he : cs ++ ds = es at h
  induction h generalizing cs with
  | nil =>
    obtain ⟨rfl, -⟩ := List.append_eq_nil_iff.mp he
    exact .nil
  | char hc _ ih =>
    cases cs with
    | nil => exact .nil
    | cons c' cs =>
      obtain ⟨rfl, ht⟩ := List.cons.inj he
      exact .char hc (ih ht)
  | @enclosed tag attributes inner rest ht hi hr _ ih =>
    rcases List.append_eq_append_iff.mp he with ⟨as, hl, rfl⟩ | ⟨bs, rfl, hr⟩
    · have ha : as = [] := by
        rcases List.eq_nil_or_concat as with rfl | ⟨start, c, rfl⟩
        · rfl
        · have hc := congrArg List.getLast? hl
          simp only [closing, ← List.append_assoc, List.concat_eq_append, List.getLast?_concat,
            Option.some.injEq] at hc
          subst hc
          exact absurd (by simp) hd
      rw [ha, List.append_nil] at hl
      rw [← hl, ← List.append_nil (opening _ _ ++ _ ++ _)]
      exact .enclosed ht hi .nil
    · exact .enclosed ht hi (ih hr.symm)

theorem trimChars (h : SafeMarkup d cs) : SafeMarkup d (trimChars cs) := by
  have hd : SafeMarkup d (cs.dropWhile isBlank) := by
    obtain ⟨he, hb, -⟩ := @span_iff isBlank cs _ _ |>.mp ⟨rfl, rfl⟩
    rw [he] at h
    exact h.of_append_right fun hm => by cases hb '<' hm
  obtain ⟨he, hb, -⟩ := @span_iff isBlank (cs.dropWhile isBlank).reverse _ _ |>.mp ⟨rfl, rfl⟩
  have hr := congrArg List.reverse he
  rw [List.reverse_reverse, List.reverse_append] at hr
  rw [hr] at hd
  exact hd.of_append_left fun hm => by cases hb '>' (List.mem_reverse.mp hm)

end SafeMarkup

section

variable {d : Decoder} {tag : String} {attributes : List Attribute}

theorem SafeTag.isWord (h : SafeTag d tag attributes) :
    isWord Char.isAlphanum tag.toList = true := by
  cases h with
  | element ht _ => exact isWord_of_mem_allowedElements tag ht
  | link _ => rfl
  | titledLink _ _ => rfl

theorem not_mem_of_isWord {more : Char → Bool} {cs : List Char} (h : Markup.isWord more cs = true)
    (hm : more '<' = false) : '<' ∉ cs := by
  obtain ⟨c, tail, rfl, hc, ht⟩ := isWord_iff.mp h
  rw [List.mem_cons, not_or]
  constructor
  · rintro rfl
    cases hc
  · intro hl
    rw [ht _ hl] at hm
    cases hm

theorem not_mem_print {a : Attribute} (hn : '<' ∉ a.name.toList)
    (hv : ∀ c ∈ a.value.toList, isQuotable c = true) : '<' ∉ a.print := by
  have hv : '<' ∉ a.value.toList := fun hm => by cases hv _ hm
  simp [Attribute.print, hn, hv]

theorem SafeTag.not_mem_print (h : SafeTag d tag attributes) :
    '<' ∉ attributes.flatMap Attribute.print := by
  rw [List.mem_flatMap]
  rintro ⟨a, hm, hc⟩
  revert hc
  cases h with
  | element _ ha =>
    refine Markup.not_mem_print (@not_mem_of_isWord isAttributeChar _ ?_ rfl) (ha a hm).value
    rcases (ha a hm).name with hn | hn
    · exact isWord_of_mem_commonAttributes _ hn
    · exact isWord_of_mem_ownAttributes tag _ hn
  | link hh =>
    obtain rfl := List.mem_singleton.mp hm
    exact Markup.not_mem_print (show '<' ∉ "href".toList from by decide) hh
  | titledLink hh ht =>
    rcases List.mem_cons.mp hm with rfl | hm
    · exact Markup.not_mem_print (show '<' ∉ "href".toList from by decide) hh
    · obtain rfl := List.mem_singleton.mp hm
      exact Markup.not_mem_print (show '<' ∉ "title".toList from by decide) ht

/-- What stands after a `<` completes an opening or a closing tag, and something follows. -/
def StandsAtTag (d : Decoder) (after : List Char) : Prop :=
  ∃ tag attributes rest, SafeTag d tag attributes ∧
    ('<' :: after = opening tag attributes ++ rest ∨ '<' :: after = closing tag ++ rest)

theorem StandsAtTag.append {as bs : List Char} (h : StandsAtTag d as) :
    StandsAtTag d (as ++ bs) := by
  obtain ⟨tag, attributes, rest, ht, he⟩ := h
  refine ⟨tag, attributes, rest ++ bs, ht, ?_⟩
  rw [← List.cons_append, ← List.append_assoc, ← List.append_assoc]
  exact he.imp (congrArg (· ++ bs)) (congrArg (· ++ bs))

theorem eachAngle_opening (h : SafeTag d tag attributes) :
    EachAngle (StandsAtTag d) (opening tag attributes) := by
  refine .cons (fun _ => ⟨tag, attributes, [], h, .inl (List.append_nil _).symm⟩) (.of_not_mem ?_)
  simp [not_mem_of_isWord h.isWord rfl, h.not_mem_print]

theorem eachAngle_closing (h : SafeTag d tag attributes) :
    EachAngle (StandsAtTag d) (closing tag) := by
  refine .cons (fun _ => ⟨tag, attributes, [], h, .inr (List.append_nil _).symm⟩) (.of_not_mem ?_)
  have hn := not_mem_of_isWord h.isWord rfl
  show '<' ∉ '/' :: (tag.toList ++ ['>'])
  simp [hn]

theorem isTagStart_of_standsAtTag {after : List Char} (h : StandsAtTag d after) :
    after.head?.any Grapheme.isTagStart = true := by
  obtain ⟨tag, attributes, rest, ht, he | he⟩ := h
  · obtain ⟨c, tail, hw, hc, -⟩ := isWord_iff.mp ht.isWord
    simp only [opening, hw, List.cons_append, List.cons.injEq, true_and] at he
    simp [he, Grapheme.isTagStart, hc]
  · obtain ⟨-, rfl⟩ := List.cons.inj he
    rfl

end

/-- Every `<` of safe markup opens or closes a tag. -/
theorem SafeMarkup.eachAngle {d : Decoder} {cs : List Char} (h : SafeMarkup d cs) :
    EachAngle (StandsAtTag d) cs := by
  induction h with
  | nil => exact .of_not_mem List.not_mem_nil
  | char h _ ih => exact .cons (fun he => absurd he h) ih
  | enclosed ht _ _ ihi ihr =>
    have hi := (eachAngle_opening ht).append .append ihi
    exact (hi.append .append (eachAngle_closing ht)).append .append ihr

theorem SafeMarkup.tagsBegin {d : Decoder} {cs : List Char} (h : SafeMarkup d cs) :
    Grapheme.TagsBegin cs :=
  fun _ _ he => isTagStart_of_standsAtTag (h.eachAngle he)

end WikiMessage.Markup
