import WikiMessage.Proofs.Evaluation.Merged
import WikiMessage.Proofs.Markup.Closing.Constructs
import WikiMessage.Proofs.Markup.Depth
import WikiMessage.Proofs.Text.Ascii

/-!
# What an element encloses

A message that can be read on its own stands between the tags of an allowed element. Unless a tag is
opened in it, it is read as the children of the element, which show the same text. A tag that is
opened in it takes the closing tag of the element for its own end, so that no element is left.
-/

namespace WikiMessage.Markup

open WikiMessage.Text Rule Operation

section

variable {cs rest : List Char}

theorem dropWhile_append_of_eq_cons {p : Char → Bool} {c : Char} (h : cs.dropWhile p = c :: rest)
    (after : List Char) : (cs ++ after).dropWhile p = c :: (rest ++ after) := by
  rw [List.dropWhile_append, h]
  rfl

theorem word_append_right {more : Char → Bool} {name : List Char}
    (h : word more cs = some (name, rest)) (hn : rest ≠ []) (after : List Char) :
    word more (cs ++ after) = some (name, rest ++ after) := by
  obtain ⟨c, tail, rfl, rfl, ha, ht, hr⟩ := word_eq_some_iff.mp h
  cases rest with
  | nil => exact absurd rfl hn
  | cons d rest => exact word_eq_some_iff.mpr ⟨c, tail, rfl, by simp, ha, ht, hr⟩

theorem spaces_append_right (h : spaces cs = some ((), rest)) (hn : rest ≠ [])
    (after : List Char) : spaces (cs ++ after) = some ((), rest ++ after) := by
  obtain ⟨blanks, hb, rfl, hs, hr⟩ := spaces_eq_some_iff.mp h
  cases rest with
  | nil => exact absurd rfl hn
  | cons d rest => exact spaces_eq_some_iff.mpr ⟨blanks, hb, by simp, hs, hr⟩

theorem tagAttribute_append_right {a : Attribute} (h : tagAttribute cs = some (a, rest))
    (after : List Char) : tagAttribute (cs ++ after) = some (a, rest ++ after) := by
  obtain ⟨start, name, mid, equals, value, rfl, hs, hw, he, hq⟩ := tagAttribute_eq_some_iff.mp h
  have hstart : start ≠ [] := by
    rintro rfl
    cases hw
  have hmid : mid ≠ [] := by
    rintro rfl
    cases he
  obtain ⟨q, hq, hn, hv⟩ := quotedValue_eq_some_iff.mp hq
  refine tagAttribute_eq_some_iff.mpr ⟨start ++ after, name, mid ++ after, equals ++ after, value,
    rfl, spaces_append_right hs hstart after, word_append_right hw hmid after,
    dropWhile_append_of_eq_cons he after, ?_⟩
  rw [dropWhile_append_of_eq_cons hv after]
  exact quotedValue_eq_some_iff.mpr ⟨q, hq, hn, by simp⟩

theorem tagAttribute_eq_none_of_not_alpha {c : Char} (h : cs.dropWhile isSpace = c :: rest)
    (hc : c.isAlpha = false) : tagAttribute cs = none := by
  refine Option.eq_none_iff_forall_ne_some.mpr fun p hp => ?_
  obtain ⟨start, name, mid, equals, value, -, hs, hw, -⟩ := tagAttribute_eq_some_iff.mp hp
  obtain ⟨blanks, -, rfl, hb, hr⟩ := spaces_eq_some_iff.mp hs
  rw [(span_iff.mpr ⟨rfl, hb, hr⟩).2] at h
  obtain ⟨d, tail, -, rfl, hd, -⟩ := word_eq_some_iff.mp hw
  obtain ⟨rfl, -⟩ := List.cons.inj h
  rw [hc] at hd
  cases hd

theorem run_tagAttribute_append {attributes : List Attribute} {c : Char} {tail : List Char}
    (hr : Run tagAttribute cs attributes rest) (h : rest.dropWhile isSpace = c :: tail)
    (hc : c.isAlpha = false) (after : List Char) :
    Run tagAttribute (cs ++ after) attributes (rest ++ after) := by
  induction hr with
  | stop _ => exact .stop (tagAttribute_eq_none_of_not_alpha (dropWhile_append_of_eq_cons h _) hc)
  | step hs _ ih => exact .step (tagAttribute_append_right hs after) (ih h)

/-- An opening tag ends where it ends whatever stands behind it. -/
theorem openTag_append_right {o : OpenTag} (h : openTag cs = some (o, rest))
    (after : List Char) : openTag (cs ++ after) = some (o, rest ++ after) := by
  obtain ⟨start, name, mid, attributes, left, rfl, rfl, hw, hr, he⟩ := openTag_eq_some_iff.mp h
  obtain ⟨c, tail, hl, hc⟩ : ∃ c tail, left.dropWhile isSpace = c :: tail ∧ c.isAlpha = false := by
    rcases he with he | he
    · exact ⟨_, _, he, rfl⟩
    · exact ⟨_, _, he, rfl⟩
  have hmid : mid ≠ [] := by
    rintro rfl
    rw [List.suffix_nil.mp (hr.suffix advances_tagAttribute)] at hl
    cases hl
  refine openTag_eq_some_iff.mpr ⟨start ++ after, name, mid ++ after, attributes, left ++ after,
    rfl, rfl, word_append_right hw hmid after, run_tagAttribute_append hr hl hc after, ?_⟩
  exact he.imp (dropWhile_append_of_eq_cons · after) (dropWhile_append_of_eq_cons · after)

end

/-- Whether the node is a sequence. Only a tag that is not closed as it should be is read as one. -/
def Node.isSeq : Node → Bool
  | seq _ => true
  | _ => false

section

variable {closing : List Char} {inner : Scope → Rule Node} {s s' : Scope} {cs rest : List Char}
  {node : Node}

theorem construct_backslash : construct inner s ['\\'] = none := by
  rw [construct_of_not_sigil rfl, textRun_eq_none_iff.mpr rfl]
  rfl

theorem not_isSpent_of_construct (hi : InnerAdvances inner)
    (hr : construct inner s cs = some (node, rest)) : ¬IsSpent cs := by
  intro hs
  rcases isSpent_iff.mp hs with rfl | rfl
  · rw [(advances_construct hi s).nil] at hr
    cases hr
  · rw [construct_backslash] at hr
    cases hr

theorem textRun_append {plain : Char → Bool} (h : IsClosing closing) (hp : plain '<' = false)
    (ht : textRun plain cs = some (node, rest)) (hrest : rest ≠ ['\\']) :
    textRun plain (cs ++ closing) = some (node, rest ++ closing) := by
  obtain ⟨pieces, rfl, hn, hr⟩ := textRun_eq_some_iff.mp ht
  refine textRun_eq_some_iff.mpr ⟨pieces, rfl, hn, ?_⟩
  clear ht hn
  induction hr with
  | @stop cs hn =>
    refine .stop ?_
    by_cases hs : IsSpent cs
    · obtain rfl := (isSpent_iff.mp hs).resolve_right hrest
      obtain ⟨tail, rfl⟩ := h.begins
      exact plainChar_eq_none_iff.mpr (.inr (.inr ⟨'<', _, rfl, by decide, hp⟩))
    · rw [plainChar_append plain hs, hn]
      rfl
  | @step cs mid rest piece pieces hs tail ih =>
    refine .step ?_ (ih hrest)
    have hn : ¬IsSpent cs := by
      intro hsp
      rcases isSpent_iff.mp hsp with rfl | rfl <;> cases hs
    rw [plainChar_append plain hn, hs]
    rfl

theorem or_map_behind {α : Type} {x y y' : Option (α × List Char)} {p : α × List Char}
    (h : x.or y = some p) (hy : y = some p → y' = some (behind closing p)) :
    (x.map (behind closing)).or y' = some (behind closing p) := by
  cases x with
  | none => exact hy h
  | some a =>
    cases h
    rfl

/-- A construct that opens no tag ends where it ends without the closing tag. -/
theorem construct_append (h : IsClosing closing) (hi : InnerAdvances inner)
    (hf : InnerFollows closing inner) (hs : s.Like s') (hc : Unclosed cs) (ho : openTag cs = none)
    (hr : construct inner s cs = some (node, rest)) (hrest : rest ≠ ['\\']) :
    construct inner s' (cs ++ closing) = some (node, rest ++ closing) := by
  have hn := not_isSpent_of_construct hi hr
  have he : element inner s cs = none := by
    simp only [element, Option.bind_eq_bind, ho, Option.bind_none]
  have he' : element inner s' (cs ++ closing) = none := by
    simp only [element, Option.bind_eq_bind, passes_openTag h cs, ho, Option.map_none,
      Option.bind_none]
  rw [construct_eq_or] at hr ⊢
  rw [call_append h hi hf hs hc, passes_placeholder h, pageLink_append h hi hf hs hc,
    webLink_append h hi hf hs hc, he', Option.none_or, ← hs.isPlain]
  rw [he, Option.none_or] at hr
  refine or_map_behind hr fun hr => or_map_behind hr fun hr => or_map_behind hr fun hr =>
    or_map_behind hr fun hr => ?_
  rcases Option.or_eq_some_iff.mp hr with ht | ⟨ht, hst⟩
  · rw [textRun_append h rfl ht hrest]
    rfl
  · rw [textRun_eq_none_iff] at ht
    rw [textRun_eq_none_iff.mpr (by rw [plainChar_append _ hn, ht]; rfl), Option.none_or,
      stray_append h hs hc hn, hst]
    rfl

theorem isSeq_of_openTag_eq_none (hi : InnerAdvances inner) (ho : openTag cs = none)
    (hr : construct inner s cs = some (node, rest)) : node.isSeq = false := by
  rcases construct_cases hr with h | h | h | h | h | h | h
  · obtain ⟨name, mid, args, rfl, -⟩ := call_eq_some_iff.mp h
    rfl
  · obtain ⟨ds, n, rfl, -⟩ := placeholder_eq_some_iff.mp h
    rfl
  · obtain ⟨start, target, mid, label, rfl, -⟩ := (pageLink_eq_some_iff hi).mp h
    rfl
  · obtain ⟨start, target, mid, left, label, rfl, -⟩ := (webLink_eq_some_iff hi).mp h
    rfl
  · simp only [element, Option.bind_eq_bind, ho, Option.bind_none, reduceCtorEq] at h
  · obtain ⟨pieces, rfl, -⟩ := textRun_eq_some_iff.mp h
    rfl
  · obtain ⟨c, -, -, rfl⟩ := stray_eq_some_iff.mp h
    rfl

end

section

variable {closing : List Char} {inner : Scope → Rule Node} {s : Scope} {cs : List Char}
  {nodes : List Node}

theorem construct_of_openTag {o : OpenTag} {start : List Char} {p : Node × List Char}
    (ho : openTag cs = some (o, start)) (h : element inner s cs = some p) :
    construct inner s cs = some p := by
  obtain ⟨start', name, mid, attributes, left, -, rfl, -⟩ := openTag_eq_some_iff.mp ho
  rw [construct_angle, h, Option.some_or]

/-- An opening tag and what stands behind it up to a closing tag, or to the end, are one node. -/
theorem construct_append_of_openTag (h : IsClosing closing) (hi : InnerAdvances inner)
    {o : OpenTag} {start rest : List Char} (ho : openTag cs = some (o, start))
    (hr : Run (inner s.element) (start ++ closing) nodes rest)
    (hrest : rest = closing ∨ rest = []) :
    ∃ node, construct inner s (cs ++ closing) = some (node, []) := by
  have ho' : openTag (cs ++ closing) = some (o, start ++ closing) := by
    rw [passes_openTag h, ho]
    rfl
  suffices he : ∃ node, element inner s (cs ++ closing) = some (node, []) by
    obtain ⟨node, he⟩ := he
    exact ⟨node, construct_of_openTag ho' he⟩
  rcases hrest with rfl | rfl
  · obtain ⟨name, hc⟩ := h
    by_cases hk : o.tag = name ∧ isAllowedElement o.tag o.attributes = true
    · exact ⟨_, (element_eq_some_iff hi).mpr ⟨o, _, nodes, _, ho', hr,
        .inr ⟨name, hc, .inl ⟨hk.1, hk.2, rfl⟩⟩⟩⟩
    · exact ⟨_, (element_eq_some_iff hi).mpr ⟨o, _, nodes, _, ho', hr,
        .inr ⟨name, hc, .inr ⟨hk, rfl⟩⟩⟩⟩
  · exact ⟨_, (element_eq_some_iff hi).mpr ⟨o, _, nodes, [], ho', hr, .inl ⟨rfl, rfl, rfl⟩⟩⟩

/-- No expression among the children of an element begins with a closing tag. -/
theorem expression_closing_eq_none (h : IsClosing closing) (depth : Nat) (s : Scope) :
    expression depth s.element closing = none := by
  obtain ⟨tail, rfl⟩ := h.begins
  exact Closes.expression_eq_none (.closingTag rfl) depth

/-- Without a closing tag the children of an element go on as long as anything can be read. -/
theorem eq_nil_of_element_fails (h : IsClosing closing) {depth : Nat} (hl : cs.length ≤ depth)
    (hc : Unclosed cs) (hn : expression depth s.element cs = none)
    (hr : Run (expression (depth + 1) s) cs nodes []) : cs = [] := by
  cases hr with
  | stop _ => rfl
  | step hs _ =>
    have hns := not_isSpent_of_construct (advances_expression depth) hs
    have hf := follows_expression h (depth + 1)
    rw [expression_eq_of_length_le hl (Nat.le_succ_of_le hl)] at hn
    have hn' := (hf s.element.like_element cs hc hns).eq_none_iff.mp hn
    rw [(hf s.like_element cs hc hns).eq_none_iff.mpr hn'] at hs
    cases hs

/-- What becomes of a text when a closing tag stands behind it. -/
structure ReadsOn (closing : List Char) (rule : Rule Node) (cs : List Char) (nodes : List Node) :
    Prop where
  /-- The text is read as before, up to the closing tag, if no tag is opened in it. -/
  closed (h : nodes.any Node.isSeq = false) : Run rule (cs ++ closing) nodes closing
  /-- Otherwise the closing tag is read with the last tag that is opened. -/
  opened (h : nodes.any Node.isSeq = true) : ∃ nodes', Run rule (cs ++ closing) nodes' []

theorem ReadsOn.nil {rule : Rule Node} (hn : rule closing = none) : ReadsOn closing rule [] [] where
  closed _ := .stop hn
  opened h := by cases h

theorem ReadsOn.cons {rule : Rule Node} {mid : List Char} {node : Node}
    (hs : rule (cs ++ closing) = some (node, mid ++ closing)) (hn : node.isSeq = false)
    (h : ReadsOn closing rule mid nodes) : ReadsOn closing rule cs (node :: nodes) where
  closed hany := by
    rw [List.any_cons, hn, Bool.false_or] at hany
    exact .step hs (h.closed hany)
  opened hany := by
    rw [List.any_cons, hn, Bool.false_or] at hany
    obtain ⟨nodes', hr⟩ := h.opened hany
    exact ⟨node :: nodes', .step hs hr⟩

/-- A tag that is opened is not closed before the end, so all the rest stands among its children. -/
theorem readsOn_of_openTag (h : IsClosing closing) {depth : Nat} (hl : cs.length ≤ depth + 1)
    (hc : Unclosed cs) {o : OpenTag} {start : List Char} (ho : openTag cs = some (o, start))
    (hin : ∀ children, Run (expression depth s.element) start children [] →
      ReadsOn closing (expression depth s.element) start children)
    (hr : Run (expression (depth + 1) s) cs nodes []) :
    ReadsOn closing (expression (depth + 1) s.element) cs nodes := by
  have hi := advances_expression depth
  have hstart := advances_openTag ho
  have hus : Unclosed start := hc.of_suffix hstart.1
  have hlen : start.length ≤ depth := by omega
  rcases hrep : repeated (expression depth s.element) start with ⟨children, left⟩
  have hrun := (repeated_eq_iff (hi s.element)).mp hrep
  have hul : Unclosed left := hus.of_suffix (hrun.suffix (hi s.element))
  have hstep : expression (depth + 1) s cs = _ :=
    construct_of_openTag ho (element_eq_of_closeTag ho hrep hul.closeTag)
  cases hr with
  | stop hn =>
    rw [hstep] at hn
    cases hn
  | step hs tail =>
    obtain ⟨rfl, rfl⟩ := Prod.mk.inj (Option.some.inj (hstep.symm.trans hs))
    obtain rfl := eq_nil_of_element_fails h
      (Nat.le_trans (hrun.length_le (hi s.element)) hlen) hul hrun.fails tail
    have hchildren := hin children hrun
    obtain ⟨node, hnode⟩ : ∃ node,
        construct (expression depth) s.element (cs ++ closing) = some (node, []) := by
      cases hany : children.any Node.isSeq with
      | false => exact construct_append_of_openTag h hi ho (hchildren.closed hany) (.inl rfl)
      | true =>
        obtain ⟨nodes', hr'⟩ := hchildren.opened hany
        exact construct_append_of_openTag h hi ho hr' (.inr rfl)
    constructor
    · intro hany
      cases hany
    · intro _
      exact ⟨[node], .step hnode (.stop (advances_expression (depth + 1) s.element).nil)⟩

/-- Every text that can be read to its end is read on so among the children of an element. The
induction is on the depth, for the children of a tag, and then on the reading. -/
theorem readsOn_of_run (h : IsClosing closing) {depth : Nat} (hl : cs.length ≤ depth)
    (hc : Unclosed cs) (hr : Run (expression depth s) cs nodes []) :
    ReadsOn closing (expression depth s.element) cs nodes := by
  induction depth generalizing s cs nodes with
  | zero =>
    cases hr with
    | stop _ => exact .nil (expression_closing_eq_none h 0 s)
    | step hs _ => cases hs
  | succ depth ihd =>
    have hi := advances_expression depth
    generalize hend : ([] : List Char) = rest at hr
    induction hr with
    | stop _ =>
      subst hend
      exact .nil (expression_closing_eq_none h (depth + 1) s)
    | @step cs mid rest node nodes hs tail ih =>
      subst hend
      cases ho : openTag cs with
      | none =>
        have hm := advances_construct hi s hs
        have hmid : mid ≠ ['\\'] := by
          rintro rfl
          cases tail with
          | step hs' _ => exact not_isSpent_of_construct hi hs' (isSpent_iff.mpr (.inr rfl))
        have hf := follows_expression h depth
        have hstep := construct_append h hi hf s.like_element hc ho hs hmid
        exact .cons hstep (isSeq_of_openTag_eq_none hi ho hs)
          (ih (by omega) (hc.of_suffix hm.1) rfl)
      | some q =>
        obtain ⟨o, start⟩ := q
        have hstart := advances_openTag ho
        exact readsOn_of_openTag h hl hc ho
          (fun children => ihd (by omega) (hc.of_suffix hstart.1)) (.step hs tail)

end

theorem Node.any_isSeq_mergeTexts (nodes : List Node) :
    (mergeTexts nodes).any isSeq = nodes.any isSeq := by
  induction nodes with
  | nil => rfl
  | cons node nodes ih =>
    rw [mergeTexts_cons, List.any_cons, ← ih]
    unfold mergeInto
    split
    · rename_i a b rest he
      rw [he]
      rfl
    · rfl

theorem taken_append_right (cs after : List Char) : taken (cs ++ after) after = cs := by
  have h := taken_append cs [] after
  rw [List.nil_append] at h
  rw [h]
  exact List.take_length

variable {links : Bool} {opening inside tag : String} {attributes : List Attribute}
  {nodes : List Node}

theorem toList_enclosed :
    (opening ++ inside ++ "</" ++ tag ++ ">").toList =
      opening.toList ++ (inside.toList ++ ('<' :: '/' :: (tag.toList ++ ['>']))) := by
  simp [String.toList_append]

theorem closeTag_of_openTag (ho : openTag opening.toList = some (⟨tag, attributes⟩, []))
    (ha : isAllowedElement tag attributes = true) :
    closeTag ('<' :: '/' :: (tag.toList ++ ['>'])) = some (tag, []) := by
  have hl : lowerAscii tag = tag := lowerAscii_tag_of_openTag (o := ⟨tag, attributes⟩) ho
  exact closeTag_of_isWord hl
    (isWord_of_mem_allowedElements tag (hl ▸ (isAllowedElement_iff.mp ha).1)) []

/-- A message between the tags of an allowed element is the content of the element and shows the
same text there, if no tag is opened in it outside of calls and links. If one is, the closing tag
belongs to that one, and the opening tag of the element is text. -/
theorem parse_enclosed (ho : openTag opening.toList = some (⟨tag, attributes⟩, []))
    (ha : isAllowedElement tag attributes = true)
    (hc : occursIn ['<', '/'] inside.toList = false)
    (hi : parse links inside = .ok (.seq nodes)) :
    (nodes.any Node.isSeq = false → ∃ children,
      parse links (opening ++ inside ++ "</" ++ tag ++ ">") =
        .ok (.seq [.element tag attributes children]) ∧
      ∀ ctx : Context, ctx.registry.get? Builtin.concat.name = none →
        (ctx.emitAll children).map Value.joinText = ctx.evaluate (.seq nodes)) ∧
    (nodes.any Node.isSeq = true → ∃ children,
      parse links (opening ++ inside ++ "</" ++ tag ++ ">") =
        .ok (.seq [.concat (escapedTag opening.toList :: children)])) := by
  obtain ⟨read, he, hr⟩ := parse_eq_ok_iff.mp hi
  obtain rfl : nodes = Node.mergeTexts read := Node.seq.inj he
  have hct := closeTag_of_openTag ho ha
  have hu : Unclosed inside.toList := by
    rintro ⟨before, after, hs⟩
    rw [occursIn_iff.mpr ⟨before, after, hs.symm⟩] at hc
    cases hc
  have ho' : openTag (opening ++ inside ++ "</" ++ tag ++ ">").toList =
      some (⟨tag, attributes⟩, inside.toList ++ ('<' :: '/' :: (tag.toList ++ ['>']))) := by
    rw [toList_enclosed]
    exact openTag_append_right ho _
  have hlt := (advances_openTag ho').2
  obtain ⟨depth, hd⟩ := Nat.exists_eq_add_one_of_ne_zero (Nat.ne_zero_of_lt hlt)
  have hlen : inside.toList.length ≤ depth := by
    rw [hd, List.length_append] at hlt
    omega
  have hadv := advances_expression depth
  have hreads := readsOn_of_run ⟨tag, hct⟩ hlen hu
    ((expression_agree hlen (Scope.top links)).run (advances_expression _ _) (hadv _)
      (Nat.le_refl _) hr)
  -- Whatever the opening tag becomes, it is the whole message.
  have hp {node : Node} (he : element (expression depth) (Scope.top links)
      (opening ++ inside ++ "</" ++ tag ++ ">").toList = some (node, [])) :
      parse links (opening ++ inside ++ "</" ++ tag ++ ">") = .ok (.concat [node]) := by
    refine parse_eq_ok_iff.mpr ⟨[node], rfl, ?_⟩
    rw [hd]
    exact .step (construct_of_openTag ho' he) (.stop (advances_expression (depth + 1) _).nil)
  rw [Node.any_isSeq_mergeTexts]
  refine ⟨fun hany => ⟨read, ?_, fun ctx hn => ?_⟩, fun hany => ?_⟩
  · exact hp ((element_eq_some_iff hadv).mpr ⟨_, _, read, _, ho', hreads.closed hany,
      .inr ⟨tag, hct, .inl ⟨rfl, ha, rfl⟩⟩⟩)
  · rw [Context.evaluate_seq hn, Context.map_joinText_emitAll_mergeTexts]
  · obtain ⟨children, hr'⟩ := hreads.opened hany
    have h := hp ((element_eq_some_iff hadv).mpr ⟨_, _, children, _, ho', hr',
      .inl ⟨rfl, rfl, rfl⟩⟩)
    rw [toList_enclosed, taken_append_right] at h
    exact ⟨children, h⟩

/-- A tag that is opened in an argument of a call ends with the argument. -/
theorem parse_enclosed_call :
    openTag "<b>".toList = some (⟨"b", []⟩, []) ∧ isAllowedElement "b" [] = true ∧
      occursIn ['<', '/'] "\x7b\x7bn:<br>\x7d\x7d $1".toList = false ∧
      ∃ nodes, parse false "\x7b\x7bn:<br>\x7d\x7d $1" = .ok (.seq nodes) ∧
        nodes.any Node.isSeq = false ∧
        ∃ children,
          parse false ("<b>" ++ "\x7b\x7bn:<br>\x7d\x7d $1" ++ "</" ++ "b" ++ ">") =
            .ok (.seq [.element "b" [] children]) ∧
          ∀ ctx : Context, ctx.registry.get? Builtin.concat.name = none →
            (ctx.emitAll children).map Value.joinText = ctx.evaluate (.seq nodes) := by
  have ho : openTag "<b>".toList = some (⟨"b", []⟩, []) := rfl
  have ha : isAllowedElement "b" [] = true := by decide
  have hc : occursIn ['<', '/'] "\x7b\x7bn:<br>\x7d\x7d $1".toList = false := by decide
  have hi : parse false "\x7b\x7bn:<br>\x7d\x7d $1" =
      .ok (.seq [.call "n" [.seq [.text "&lt;br&gt;"]], .text " ", .placeholder 0]) := by rfl
  exact ⟨ho, ha, hc, _, hi, rfl, (parse_enclosed ho ha hc hi).1 rfl⟩

/-- A line break that is opened and never closed takes the closing tag of the element around it. -/
theorem exists_enclosed_not_element :
    openTag "<b>".toList = some (⟨"b", []⟩, []) ∧ isAllowedElement "b" [] = true ∧
      occursIn ['<', '/'] "one<br>two".toList = false ∧
      (∃ tree, parse false "one<br>two" = .ok tree) ∧
      ¬∃ children, parse false ("<b>" ++ "one<br>two" ++ "</" ++ "b" ++ ">") =
        .ok (.seq [.element "b" [] children]) := by
  have hi : parse false "one<br>two" = .ok (.seq [.text "one", .seq [.text "&lt;br&gt;two"]]) := by
    rfl
  have hp : parse false ("<b>" ++ "one<br>two" ++ "</" ++ "b" ++ ">") =
      .ok (.seq [.seq [.text "&lt;b&gt;one", .seq [.text "&lt;br&gt;two&lt;/b&gt;"]]]) := by rfl
  refine ⟨rfl, by decide, by decide, ⟨_, hi⟩, ?_⟩
  rintro ⟨children, h⟩
  rw [hp] at h
  cases h

end WikiMessage.Markup
