import WikiMessage.Proofs.Markup.Lexical

/-!
# What the rules with nesting read

The rules that expressions stand in, as equivalences over the rule `inner` for these expressions,
which has to advance. An expression then advances at every depth.
-/

namespace WikiMessage.Markup

open WikiMessage.Text Rule

/-- The rule for inner expressions leaves a proper end of the text in every scope. -/
def InnerAdvances (inner : Scope → Rule Node) : Prop := ∀ s, Advances (inner s)

variable {inner : Scope → Rule Node} {s : Scope} {cs rest : List Char}

theorem argument_eq_iff {rule : Rule Node} (ha : Advances rule) {node : Node} :
    argument rule cs = (node, rest) ↔ ∃ nodes, node = .collapse nodes ∧ Run rule cs nodes rest := by
  simp only [argument, Prod.mk.injEq]
  constructor
  · rintro ⟨rfl, rfl⟩
    exact ⟨_, rfl, (repeated_eq_iff ha).mp rfl⟩
  · rintro ⟨nodes, rfl, hr⟩
    rw [(repeated_eq_iff ha).mpr hr]
    exact ⟨rfl, rfl⟩

theorem argumentAfter_eq_some_iff {rule : Rule Node} (ha : Advances rule) {mark : Char}
    {node : Node} :
    argumentAfter mark rule cs = some (node, rest) ↔
      ∃ nodes start, node = .collapse nodes ∧ cs = mark :: start ∧ Run rule start nodes rest := by
  cases cs with
  | nil => simp [argumentAfter]
  | cons c cs =>
    simp only [argumentAfter, Option.ite_none_right_eq_some, Option.some.injEq,
      argument_eq_iff ha, List.cons.injEq]
    constructor
    · rintro ⟨rfl, nodes, rfl, hr⟩
      exact ⟨nodes, cs, rfl, ⟨rfl, rfl⟩, hr⟩
    · rintro ⟨nodes, start, rfl, ⟨rfl, rfl⟩, hr⟩
      exact ⟨rfl, nodes, rfl, hr⟩

theorem argumentAfter_eq_none_iff {rule : Rule Node} {mark : Char} :
    argumentAfter mark rule cs = none ↔ cs.head? ≠ some mark := by
  cases cs with
  | nil => simp [argumentAfter]
  | cons c cs => simp [argumentAfter]

theorem advances_argumentAfter {rule : Rule Node} (ha : Advances rule) (mark : Char) :
    Advances (argumentAfter mark rule) := by
  intro cs node rest h
  obtain ⟨nodes, start, -, rfl, hr⟩ := (argumentAfter_eq_some_iff ha).mp h
  exact ⟨(hr.suffix ha).trans (List.suffix_cons _ _), Nat.lt_succ_of_le (hr.length_le ha)⟩

/-- A first argument stands after a colon, or all arguments stand after bars. -/
theorem arguments_eq_iff {rule : Rule Node} (ha : Advances rule) {args : List Node} :
    arguments rule cs = (args, rest) ↔
      (∃ first more mid, args = first :: more ∧ argumentAfter ':' rule cs = some (first, mid) ∧
        Run (argumentAfter '|' rule) mid more rest) ∨
      cs.head? ≠ some ':' ∧ Run (argumentAfter '|' rule) cs args rest := by
  unfold arguments
  split
  · rename_i first mid h
    have hh : cs.head? = some ':' := by
      obtain ⟨nodes, start, -, rfl, -⟩ := (argumentAfter_eq_some_iff ha).mp h
      rfl
    simp only [Prod.mk.injEq, h, Option.some.injEq, hh, ne_eq, not_true_eq_false, false_and,
      or_false]
    constructor
    · rintro ⟨rfl, rfl⟩
      have ha' := advances_argumentAfter ha '|'
      exact ⟨first, _, mid, rfl, ⟨rfl, rfl⟩, (repeated_eq_iff ha').mp rfl⟩
    · rintro ⟨first', more, mid', rfl, ⟨rfl, rfl⟩, hr⟩
      rw [(repeated_eq_iff (advances_argumentAfter ha '|')).mpr hr]
      exact ⟨rfl, rfl⟩
  · rename_i h
    simp only [h, reduceCtorEq, false_and, and_false, exists_false, false_or,
      argumentAfter_eq_none_iff.mp h, ne_eq, not_false_eq_true, true_and]
    exact repeated_eq_iff (advances_argumentAfter ha '|')

theorem arguments_suffix {rule : Rule Node} (ha : Advances rule) {args : List Node}
    (h : arguments rule cs = (args, rest)) : rest <:+ cs := by
  rcases (arguments_eq_iff ha).mp h with ⟨first, more, mid, -, hf, hr⟩ | ⟨-, hr⟩
  · exact (hr.suffix (advances_argumentAfter ha '|')).trans (advances_argumentAfter ha ':' hf).1
  · exact hr.suffix (advances_argumentAfter ha '|')

theorem call_eq_some_iff {node : Node} :
    call inner s cs = some (node, rest) ↔
      ∃ name mid args, node = .call (String.ofList (trimChars name)) args ∧ name ≠ [] ∧
        (∀ c ∈ name, isNameChar c = true) ∧ (∀ c ∈ mid.head?, isNameChar c = false) ∧
        cs = '{' :: '{' :: (name ++ mid) ∧
        arguments (inner s.argument) mid = (args, '}' :: '}' :: rest) := by
  simp only [call, Option.bind_eq_bind, Option.bind_eq_some_iff, dropStart?_eq_some,
    Option.ite_none_left_eq_some, List.isEmpty_iff, Option.some.injEq, Prod.mk.injEq,
    List.cons_append, List.nil_append]
  constructor
  · rintro ⟨start, rfl, hn, left, ha, rfl, rfl⟩
    obtain ⟨hs, hw, hl⟩ := span_iff.mp ⟨rfl, rfl⟩
    exact ⟨start.takeWhile isNameChar, _, _, rfl, hn, hw, hl, by rw [← hs], Prod.ext rfl ha⟩
  · rintro ⟨name, mid, args, rfl, hn, hw, hl, rfl, ha⟩
    obtain ⟨ht, hd⟩ := span_iff.mpr ⟨rfl, hw, hl⟩
    refine ⟨name ++ mid, rfl, by rwa [ht], rest, ?_, ?_, rfl⟩
    · rw [hd, ha]
    · rw [ht, hd, ha]

theorem advances_call (hi : InnerAdvances inner) (s : Scope) : Advances (call inner s) := by
  intro cs node rest h
  obtain ⟨name, mid, args, -, -, -, -, rfl, ha⟩ := call_eq_some_iff.mp h
  have h₁ := arguments_suffix (hi s.argument) ha
  have h₂ : rest <:+ name ++ mid :=
    (((List.suffix_cons _ _).trans (List.suffix_cons _ _)).trans h₁).trans (List.suffix_append _ _)
  refine ⟨(h₂.trans (List.suffix_cons _ _)).trans (List.suffix_cons _ _), ?_⟩
  have hl := h₂.length_le
  simp only [List.length_cons]
  omega

theorem pageTarget_cases {node : Node} (h : pageTarget inner s cs = some (node, rest)) :
    call inner s cs = some (node, rest) ∨ placeholder cs = some (node, rest) ∨
      textRun s.argument.isPlain cs = some (node, rest) := by
  simp only [pageTarget, Option.orElse_eq_orElse, Option.orElse_eq_or, Option.or_eq_some_iff] at h
  rcases h with h | ⟨-, h | ⟨-, h⟩⟩
  · exact .inl h
  · exact .inr (.inl h)
  · exact .inr (.inr h)

theorem webTarget_cases {node : Node} (h : webTarget inner s cs = some (node, rest)) :
    call inner s cs = some (node, rest) ∨ placeholder cs = some (node, rest) ∨
      textRun (fun c => s.isPlain c && !isBlank c) cs = some (node, rest) := by
  simp only [webTarget, Option.orElse_eq_orElse, Option.orElse_eq_or, Option.or_eq_some_iff] at h
  rcases h with h | ⟨-, h | ⟨-, h⟩⟩
  · exact .inl h
  · exact .inr (.inl h)
  · exact .inr (.inr h)

theorem advances_pageTarget (hi : InnerAdvances inner) (s : Scope) :
    Advances (pageTarget inner s) := by
  intro cs node rest h
  rcases pageTarget_cases h with h | h | h
  · exact advances_call hi s h
  · exact advances_placeholder h
  · exact advances_textRun _ h

theorem advances_webTarget (hi : InnerAdvances inner) (s : Scope) :
    Advances (webTarget inner s) := by
  intro cs node rest h
  rcases webTarget_cases h with h | h | h
  · exact advances_call hi s h
  · exact advances_placeholder h
  · exact advances_textRun _ h

theorem pageLabel_eq_some_iff {rule : Rule Node} (ha : Advances rule) {label : Option Node} :
    pageLabel rule cs = some (label, rest) ↔
      (∃ nodes start, label = some (.collapse nodes) ∧ cs = '|' :: start ∧ nodes ≠ [] ∧
        Run rule start nodes rest) ∨
      label = none ∧ rest = cs ∧ cs.head? ≠ some '|' := by
  unfold pageLabel
  split
  · simp only [Option.map_eq_some_iff, Prod.exists, Prod.mk.injEq, repeated1_eq_some_iff ha,
      List.cons.injEq, true_and, List.head?_cons, ne_eq, not_true_eq_false, and_false, or_false]
    constructor
    · rintro ⟨nodes, left, ⟨hn, hr⟩, rfl, rfl⟩
      exact ⟨nodes, _, rfl, rfl, hn, hr⟩
    · rintro ⟨nodes, start, rfl, rfl, hn, hr⟩
      exact ⟨nodes, rest, ⟨hn, hr⟩, rfl, rfl⟩
  · rename_i hc
    have hh : cs.head? ≠ some '|' := by
      cases cs with
      | nil => simp
      | cons c cs =>
        rw [List.head?_cons, ne_eq, Option.some.injEq]
        rintro rfl
        exact hc cs rfl
    constructor
    · rintro ⟨⟩
      exact .inr ⟨rfl, rfl, hh⟩
    · rintro (⟨nodes, start, -, rfl, -⟩ | ⟨rfl, rfl, -⟩)
      · exact absurd rfl (hc start)
      · rfl

theorem pageLabel_suffix {rule : Rule Node} (ha : Advances rule) {label : Option Node}
    (h : pageLabel rule cs = some (label, rest)) : rest <:+ cs := by
  rcases (pageLabel_eq_some_iff ha).mp h with ⟨nodes, start, -, rfl, -, hr⟩ | ⟨-, rfl, -⟩
  · exact (hr.suffix ha).trans (List.suffix_cons _ _)
  · exact List.suffix_refl _

theorem pageLink_eq_some_iff (hi : InnerAdvances inner) {node : Node} :
    pageLink inner s cs = some (node, rest) ↔
      ∃ start target mid label, node = .pageLink (.collapse target) label ∧ s.links = true ∧
        s.inLink = false ∧ cs = '[' :: '[' :: start ∧ target ≠ [] ∧
        Run (pageTarget inner s.target) start target mid ∧
        pageLabel (inner s.label) mid = some (label, ']' :: ']' :: rest) := by
  simp only [pageLink, Option.bind_eq_bind, Option.ite_none_right_eq_some, Bool.and_eq_true,
    Bool.not_eq_true', Option.bind_eq_some_iff, dropStart?_eq_some, Prod.exists,
    repeated1_eq_some_iff (advances_pageTarget hi s.target), Option.some.injEq, Prod.mk.injEq,
    List.cons_append, List.nil_append]
  constructor
  · rintro ⟨⟨hs, hn⟩, start, rfl, target, mid, ⟨ht, hr⟩, label, left, hl, left', rfl, rfl, rfl⟩
    exact ⟨start, target, mid, label, rfl, hs, hn, rfl, ht, hr, hl⟩
  · rintro ⟨start, target, mid, label, rfl, hs, hn, rfl, ht, hr, hl⟩
    exact ⟨⟨hs, hn⟩, start, rfl, target, mid, ⟨ht, hr⟩, label, _, hl, rest, rfl, rfl, rfl⟩

theorem advances_pageLink (hi : InnerAdvances inner) (s : Scope) :
    Advances (pageLink inner s) := by
  intro cs node rest h
  obtain ⟨start, target, mid, label, -, -, -, rfl, -, hr, hl⟩ := (pageLink_eq_some_iff hi).mp h
  have h₁ := hr.suffix (advances_pageTarget hi s.target)
  have h₂ := pageLabel_suffix (hi s.label) hl
  have h₃ : rest <:+ start :=
    (((List.suffix_cons _ _).trans (List.suffix_cons _ _)).trans h₂).trans h₁
  refine ⟨(h₃.trans (List.suffix_cons _ _)).trans (List.suffix_cons _ _), ?_⟩
  have hl := h₃.length_le
  simp only [List.length_cons]
  omega

theorem webLink_eq_some_iff (hi : InnerAdvances inner) {node : Node} :
    webLink inner s cs = some (node, rest) ↔
      ∃ start target mid left label, node = .webLink (.collapse target) (.collapse label) ∧
        s.links = true ∧ s.inLink = false ∧ cs = '[' :: start ∧ target ≠ [] ∧
        Run (webTarget inner s.target) start target mid ∧ spaces mid = some ((), left) ∧
        label ≠ [] ∧ Run (inner s.label) left label (']' :: rest) := by
  simp only [webLink, Option.bind_eq_bind, Option.ite_none_right_eq_some, Bool.and_eq_true,
    Bool.not_eq_true', Option.bind_eq_some_iff, dropStart?_eq_some, Prod.exists,
    repeated1_eq_some_iff (advances_webTarget hi s.target), repeated1_eq_some_iff (hi s.label),
    Option.some.injEq, Prod.mk.injEq, List.cons_append, List.nil_append]
  constructor
  · rintro ⟨⟨hs, hn⟩, start, rfl, target, mid, ⟨ht, hr⟩, ⟨⟩, left, hw, label, end', ⟨hl, hr'⟩,
      left', rfl, rfl, rfl⟩
    exact ⟨start, target, mid, left, label, rfl, hs, hn, rfl, ht, hr, hw, hl, hr'⟩
  · rintro ⟨start, target, mid, left, label, rfl, hs, hn, rfl, ht, hr, hw, hl, hr'⟩
    exact ⟨⟨hs, hn⟩, start, rfl, target, mid, ⟨ht, hr⟩, (), left, hw, label, _, ⟨hl, hr'⟩, rest,
      rfl, rfl, rfl⟩

theorem advances_webLink (hi : InnerAdvances inner) (s : Scope) : Advances (webLink inner s) := by
  intro cs node rest h
  obtain ⟨start, target, mid, left, label, -, -, -, rfl, -, hr, hw, -, hr'⟩ :=
    (webLink_eq_some_iff hi).mp h
  have h₁ := hr.suffix (advances_webTarget hi s.target)
  have h₂ := (advances_spaces hw).1
  have h₃ : rest <:+ left := (List.suffix_cons _ _).trans (hr'.suffix (hi s.label))
  have hs : rest <:+ start := (h₃.trans h₂).trans h₁
  exact ⟨hs.trans (List.suffix_cons _ _), Nat.lt_succ_of_le hs.length_le⟩

/-- An opening tag and what stands in it come to one of three ends: no closing tag follows, its own
one does and the element is allowed, or the tags are no element. -/
theorem element_eq_some_iff (hi : InnerAdvances inner) {node : Node} :
    element inner s cs = some (node, rest) ↔
      ∃ o start children left, openTag cs = some (o, start) ∧
        Run (inner s.element) start children left ∧
        (closeTag left = none ∧ rest = left ∧
            node = .concat (escapedTag (taken cs start) :: children) ∨
          ∃ name, closeTag left = some (name, rest) ∧
            (o.tag = name ∧ isAllowedElement o.tag o.attributes = true ∧
                node = .element o.tag o.attributes children ∨
              ¬(o.tag = name ∧ isAllowedElement o.tag o.attributes = true) ∧
                node = .concat (escapedTag (taken cs start) :: children ++
                  [escapedTag (taken left rest)]))) := by
  have hr (start : List Char) : Run (inner s.element) start (repeated (inner s.element) start).1
      (repeated (inner s.element) start).2 := (repeated_eq_iff (hi s.element)).mp rfl
  simp only [element, Option.bind_eq_bind, Option.bind_eq_some_iff, Prod.exists]
  constructor
  · rintro ⟨o, start, ho, h⟩
    refine ⟨o, start, _, _, ho, hr start, ?_⟩
    split at h
    · rename_i hc
      cases h
      exact .inl ⟨hc, rfl, rfl⟩
    · rename_i name left hc
      split at h
      · rename_i hk
        obtain ⟨ht, hk⟩ := Bool.and_eq_true_iff.mp hk
        cases h
        exact .inr ⟨name, hc, .inl ⟨of_decide_eq_true ht, hk, rfl⟩⟩
      · rename_i hk
        cases h
        refine .inr ⟨name, hc, .inr ⟨?_, rfl⟩⟩
        rintro ⟨ht, ha⟩
        exact hk (Bool.and_eq_true_iff.mpr ⟨decide_eq_true ht, ha⟩)
  · rintro ⟨o, start, children, left, ho, hc, h⟩
    refine ⟨o, start, ho, ?_⟩
    obtain ⟨rfl, rfl⟩ := (hr start).unique hc
    rcases h with ⟨hn, rfl, rfl⟩ | ⟨name, hn, ⟨ht, ha, rfl⟩ | ⟨hk, rfl⟩⟩
    · rw [hn]
    · subst ht
      rw [hn]
      simp only [decide_true, ha, Bool.and_self, if_true]
    · rw [hn]
      simp only [Bool.and_eq_true, decide_eq_true_eq, if_neg hk]

theorem advances_element (hi : InnerAdvances inner) (s : Scope) : Advances (element inner s) := by
  intro cs node rest h
  obtain ⟨o, start, children, left, ho, hr, h⟩ := (element_eq_some_iff hi).mp h
  have h₁ := advances_openTag ho
  have h₂ := hr.suffix (hi s.element)
  have h₃ : rest <:+ left := by
    rcases h with ⟨-, rfl, -⟩ | ⟨name, hc, -⟩
    · exact List.suffix_refl _
    · exact (advances_closeTag hc).1
  have hs := h₃.trans h₂
  exact ⟨hs.trans h₁.1, Nat.lt_of_le_of_lt hs.length_le h₁.2⟩

theorem construct_eq_or (cs : List Char) : construct inner s cs =
    (call inner s cs).or ((placeholder cs).or ((pageLink inner s cs).or ((webLink inner s cs).or
      ((element inner s cs).or ((textRun s.isPlain cs).or (stray s cs)))))) := by
  simp only [construct, Option.orElse_eq_orElse, Option.orElse_eq_or]

theorem construct_cases {node : Node} (h : construct inner s cs = some (node, rest)) :
    call inner s cs = some (node, rest) ∨ placeholder cs = some (node, rest) ∨
      pageLink inner s cs = some (node, rest) ∨ webLink inner s cs = some (node, rest) ∨
      element inner s cs = some (node, rest) ∨ textRun s.isPlain cs = some (node, rest) ∨
      stray s cs = some (node, rest) := by
  simp only [construct_eq_or, Option.or_eq_some_iff] at h
  rcases h with h | ⟨-, h | ⟨-, h | ⟨-, h | ⟨-, h | ⟨-, h | ⟨-, h⟩⟩⟩⟩⟩⟩
  all_goals simp only [h, true_or, or_true]

theorem construct_eq_none_iff :
    construct inner s cs = none ↔
      call inner s cs = none ∧ placeholder cs = none ∧ pageLink inner s cs = none ∧
        webLink inner s cs = none ∧ element inner s cs = none ∧ textRun s.isPlain cs = none ∧
        stray s cs = none := by
  simp only [construct_eq_or, Option.or_eq_none_iff]

theorem advances_construct (hi : InnerAdvances inner) (s : Scope) :
    Advances (construct inner s) := by
  intro cs node rest h
  rcases construct_cases h with h | h | h | h | h | h | h
  · exact advances_call hi s h
  · exact advances_placeholder h
  · exact advances_pageLink hi s h
  · exact advances_webLink hi s h
  · exact advances_element hi s h
  · exact advances_textRun _ h
  · exact advances_stray s h

/-! Which rules can succeed depends on the first character, so that all but two or three of them
are out of the question. -/

theorem call_eq_none_of_head {c : Char} (h : c ≠ '{') : call inner s (c :: cs) = none := by
  refine Option.eq_none_iff_forall_ne_some.mpr fun p hp => ?_
  obtain ⟨name, mid, args, -, -, -, -, he, -⟩ := call_eq_some_iff.mp hp
  exact h (List.cons.inj he).1

theorem placeholder_eq_none_of_head {c : Char} (h : c ≠ '$') : placeholder (c :: cs) = none := by
  refine Option.eq_none_iff_forall_ne_some.mpr fun p hp => ?_
  obtain ⟨ds, n, -, he, -⟩ := placeholder_eq_some_iff.mp hp
  exact h (List.cons.inj he).1

theorem pageLink_eq_none_of_head {c : Char} (h : c ≠ '[') : pageLink inner s (c :: cs) = none := by
  refine Option.eq_none_iff_forall_ne_some.mpr fun p hp => ?_
  simp only [pageLink, Option.bind_eq_bind, Option.ite_none_right_eq_some,
    Option.bind_eq_some_iff, dropStart?_eq_some] at hp
  obtain ⟨-, start, he, -⟩ := hp
  exact h (List.cons.inj he).1

theorem webLink_eq_none_of_head {c : Char} (h : c ≠ '[') : webLink inner s (c :: cs) = none := by
  refine Option.eq_none_iff_forall_ne_some.mpr fun p hp => ?_
  simp only [webLink, Option.bind_eq_bind, Option.ite_none_right_eq_some,
    Option.bind_eq_some_iff, dropStart?_eq_some] at hp
  obtain ⟨-, start, he, -⟩ := hp
  exact h (List.cons.inj he).1

theorem element_eq_none_of_head {c : Char} (h : c ≠ '<') : element inner s (c :: cs) = none := by
  refine Option.eq_none_iff_forall_ne_some.mpr fun p hp => ?_
  simp only [element, Option.bind_eq_bind, Option.bind_eq_some_iff] at hp
  obtain ⟨q, hq, -⟩ := hp
  obtain ⟨start, name, mid, attributes, left, -, he, -⟩ := openTag_eq_some_iff.mp hq
  exact h (List.cons.inj he).1

theorem textRun_eq_none_of_head {plain : Char → Bool} {c : Char} (hb : c ≠ '\\')
    (hc : plain c = false) : textRun plain (c :: cs) = none :=
  textRun_eq_none_iff.mpr (plainChar_eq_none_iff.mpr (.inr (.inr ⟨c, cs, rfl, hb, hc⟩)))

theorem construct_brace : construct inner s ('{' :: cs) =
    (call inner s ('{' :: cs)).or (stray s ('{' :: cs)) := by
  simp [construct, placeholder_eq_none_of_head, pageLink_eq_none_of_head, webLink_eq_none_of_head,
    element_eq_none_of_head, textRun_eq_none_of_head, Scope.isPlain]

theorem construct_dollar : construct inner s ('$' :: cs) =
    (placeholder ('$' :: cs)).or (stray s ('$' :: cs)) := by
  simp [construct, call_eq_none_of_head, pageLink_eq_none_of_head, webLink_eq_none_of_head,
    element_eq_none_of_head, textRun_eq_none_of_head, Scope.isPlain]

theorem construct_angle : construct inner s ('<' :: cs) =
    (element inner s ('<' :: cs)).or (stray s ('<' :: cs)) := by
  simp [construct, call_eq_none_of_head, placeholder_eq_none_of_head, pageLink_eq_none_of_head,
    webLink_eq_none_of_head, textRun_eq_none_of_head, Scope.isPlain]

theorem construct_bracket : construct inner s ('[' :: cs) =
    (pageLink inner s ('[' :: cs)).or ((webLink inner s ('[' :: cs)).or
      ((textRun s.isPlain ('[' :: cs)).or (stray s ('[' :: cs)))) := by
  simp [construct, call_eq_none_of_head, placeholder_eq_none_of_head, element_eq_none_of_head]

/-- The characters with which a call, a placeholder, a link or an element begins. -/
def isSigil (c : Char) : Bool := c = '{' || c = '$' || c = '[' || c = '<'

theorem construct_of_not_sigil {c : Char} (h : isSigil c = false) :
    construct inner s (c :: cs) = (textRun s.isPlain (c :: cs)).or (stray s (c :: cs)) := by
  simp only [isSigil, Bool.or_eq_false_iff, decide_eq_false_iff_not] at h
  obtain ⟨⟨⟨h₁, h₂⟩, h₃⟩, h₄⟩ := h
  simp [construct, call_eq_none_of_head h₁, placeholder_eq_none_of_head h₂,
    pageLink_eq_none_of_head h₃, webLink_eq_none_of_head h₃, element_eq_none_of_head h₄]

/-- Every expression reads at least one character, however deep others may stand in it. -/
theorem advances_expression (depth : Nat) : InnerAdvances (expression depth) := by
  induction depth with
  | zero =>
    intro s cs node rest h
    cases h
  | succ depth ih => exact fun s => advances_construct ih s

variable {links : Bool} {message : String}

theorem parse_eq_ok_iff {tree : Node} :
    parse links message = .ok tree ↔
      ∃ nodes, tree = .concat nodes ∧
        Run (expression message.toList.length (Scope.top links)) message.toList nodes [] := by
  have ha := advances_expression message.toList.length (Scope.top links)
  simp only [parse, ← repeated_eq_iff ha]
  split
  · rename_i he
    simp only [Except.ok.injEq]
    constructor
    · rintro rfl
      exact ⟨_, rfl, Prod.ext rfl (List.isEmpty_iff.mp he)⟩
    · rintro ⟨nodes, rfl, hr⟩
      rw [hr]
  · rename_i he
    simp only [reduceCtorEq, false_iff]
    rintro ⟨nodes, -, hr⟩
    rw [hr] at he
    exact he rfl

theorem parse_eq_error_iff {e : ParseError} :
    parse links message = .error e ↔
      ∃ nodes rest, e = .ofRest message rest ∧ rest ≠ [] ∧
        Run (expression message.toList.length (Scope.top links)) message.toList nodes rest := by
  have ha := advances_expression message.toList.length (Scope.top links)
  simp only [parse, ← repeated_eq_iff ha]
  split
  · rename_i he
    simp only [reduceCtorEq, false_iff]
    rintro ⟨nodes, rest, -, hn, hr⟩
    rw [hr] at he
    exact hn (List.isEmpty_iff.mp he)
  · rename_i he
    simp only [Except.error.injEq]
    constructor
    · rintro rfl
      exact ⟨_, _, rfl, fun hn => he (List.isEmpty_iff.mpr hn), rfl⟩
    · rintro ⟨nodes, rest, rfl, hn, hr⟩
      rw [hr]

end WikiMessage.Markup
