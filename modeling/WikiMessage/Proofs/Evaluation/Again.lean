import WikiMessage.Proofs.Evaluation.Safe
import WikiMessage.Proofs.Markup.Boundary
import WikiMessage.Proofs.Markup.Html
import WikiMessage.Proofs.Markup.Ordinary

/-!
# Rendering what was rendered

What a message of text and elements is rendered as can be read as a message again. Texts are then
read as they stand and elements as elements, but the values of attributes, which were escaped when
they were rendered, are not unescaped when they are read. So the second rendering shows the tree of
the message with its values escaped, and it is the same as the first one exactly when no value holds
a character that escaping changes.
-/

namespace WikiMessage

open WikiMessage.Text Markup Operation Rule
open Source (IsTag)

namespace Markup.Node

mutual

/-- The tree with the values of all attributes escaped. -/
def escapeValues : Node → Node
  | text content => text content
  | placeholder index => placeholder index
  | seq children => seq (escapeAllValues children)
  | call name args => call name (escapeAllValues args)
  | pageLink target none => pageLink (escapeValues target) none
  | pageLink target (some label) => pageLink (escapeValues target) (some (escapeValues label))
  | webLink target label => webLink (escapeValues target) (escapeValues label)
  | element tag attributes children =>
    element tag (attributes.map Attribute.escaped) (escapeAllValues children)

def escapeAllValues : List Node → List Node
  | [] => []
  | node :: nodes => escapeValues node :: escapeAllValues nodes

end

mutual

/-- What a tree of texts and elements is rendered as. -/
def markup : Node → List Char
  | text content => content.toList
  | seq children => markupAll children
  | element tag attributes children =>
    opening tag (attributes.map Attribute.escaped) ++ markupAll children ++ closing tag
  | _ => []

def markupAll : List Node → List Char
  | [] => []
  | node :: nodes => markup node ++ markupAll nodes

end

theorem escapeAllValues_eq_map (nodes : List Node) :
    escapeAllValues nodes = nodes.map escapeValues := by
  induction nodes with
  | nil => rfl
  | cons node nodes ih => rw [escapeAllValues, ih, List.map_cons]

theorem markupAll_eq_flatMap (nodes : List Node) : markupAll nodes = nodes.flatMap markup := by
  induction nodes with
  | nil => rfl
  | cons node nodes ih => rw [markupAll, ih, List.flatMap_cons]

end Markup.Node

open Node

variable {links : Bool} {node : Node} {ctx : Context}

theorem Markup.IsHtml.escapeValues (h : IsHtml links node) : IsHtml links node.escapeValues := by
  induction h with
  | text h => exact .text h
  | seq _ ih =>
    rw [Node.escapeValues, escapeAllValues_eq_map]
    exact .seq (by simpa using ih)
  | element ha ht hn _ ih =>
    rw [Node.escapeValues, escapeAllValues_eq_map]
    exact .element (isAllowedElement_escaped ha) ht (by simpa [Attribute.escaped] using hn)
      (by simpa using ih)

/-- Small letters are rendered as they are. -/
theorem toList_renderElement_of_lower {tag : String} {attributes : List Attribute}
    (ha : isAllowedElement tag attributes = true) (ht : lowerAscii tag = tag)
    (hn : ∀ a ∈ attributes, lowerAscii a.name = a.name) (inner : String) :
    (renderElement tag attributes inner).toList =
      opening tag (attributes.map Attribute.escaped) ++ inner.toList ++ closing tag := by
  obtain ⟨hm, ha⟩ := isAllowedElement_iff.mp ha
  have hattr : (attributes.map fun a => ⟨Text.lower a.name, escape a.value⟩) =
      attributes.map Attribute.escaped := by
    refine List.map_congr_left fun a h => ?_
    rw [lower_name_of_isAllowed (ha a h), hn a h, Attribute.escaped]
  rw [toList_renderElement, lower_tag_of_isAllowed hm, ht, hattr]

namespace Context

theorem map_joinText_emitAll_of_evaluate {nodes : List Node}
    (h : ∀ n ∈ nodes, ctx.evaluate n = .ok (String.ofList n.markup)) :
    (ctx.emitAll nodes).map Value.joinText = .ok (String.ofList (markupAll nodes)) := by
  induction nodes with
  | nil => rfl
  | cons node nodes ih =>
    obtain ⟨hn, ht⟩ := List.forall_mem_cons.mp h
    rw [map_joinText_emitAll_cons, ih ht]
    rw [evaluate] at hn
    cases he : ctx.emit node with
    | error e =>
      rw [he] at hn
      cases hn
    | ok v =>
      rw [he] at hn
      simp only [Except.map, Except.ok.injEq] at hn
      rw [markupAll, String.ofList_append, ← hn]
      rfl

theorem evaluate_of_isHtml (hr : ctx.registry.get? Builtin.concat.name = none)
    (h : IsHtml links node) : ctx.evaluate node = .ok (String.ofList node.markup) := by
  induction h with
  | text _ => simp [evaluate, emit, markup, Except.map]
  | seq _ ih =>
    rw [evaluate_seq hr, map_joinText_emitAll_of_evaluate ih]
    rfl
  | @element tag attributes children ha ht hn _ ih =>
    rw [evaluate, emit_element, if_pos ha, map_joinText_emitAll_of_evaluate ih]
    simp only [Except.map, Value.toText, Except.ok.injEq]
    rw [← String.toList_inj, toList_renderElement_of_lower ha ht hn, String.toList_ofList,
      String.toList_ofList, markup]

theorem map_joinText_emitAll_seq (hr : ctx.registry.get? Builtin.concat.name = none)
    (children nodes : List Node) :
    (ctx.emitAll (.seq children :: nodes)).map Value.joinText =
      (ctx.emitAll (children ++ nodes)).map Value.joinText := by
  rw [map_joinText_emitAll_cons, map_joinText_emitAll_append, emit_seq hr]
  cases ctx.emitAll children <;> rfl

end Context

/-- Both lists of nodes show the same text, unless another operation joins texts. -/
def ShowAlike (nodes nodes' : List Node) : Prop :=
  ∀ ctx : Context, ctx.registry.get? Builtin.concat.name = none →
    (ctx.emitAll nodes).map Value.joinText = (ctx.emitAll nodes').map Value.joinText

/-- A text in front of any text that can be read is read as what shows the given nodes in front of
what the other one shows. The depth has to be enough for the text. -/
def ReadsInFront (depth : Nat) (s : Scope) (text : List Char) (shown : List Node) : Prop :=
  ∀ ⦃cs nodes rest⦄, Run (expression depth s) cs nodes rest →
    ∃ read, Run (expression depth s) (text ++ cs) read rest ∧ ShowAlike read (shown ++ nodes)

section

variable {depth : Nat} {s : Scope}

theorem ReadsInFront.nil : ReadsInFront depth s [] [] :=
  fun _ nodes _ hr => ⟨nodes, hr, fun _ _ => rfl⟩

theorem ReadsInFront.append {text text' : List Char} {shown shown' : List Node}
    (h : ReadsInFront depth s text shown) (h' : ReadsInFront depth s text' shown') :
    ReadsInFront depth s (text ++ text') (shown ++ shown') := by
  intro cs nodes rest hr
  obtain ⟨read, hr, hs'⟩ := h' hr
  obtain ⟨read, hr, hs⟩ := h hr
  refine ⟨read, by rwa [List.append_assoc], fun ctx hc => ?_⟩
  rw [hs ctx hc, List.append_assoc, Context.map_joinText_emitAll_append, hs' ctx hc,
    ← Context.map_joinText_emitAll_append]

theorem ReadsInFront.showing {text : List Char} {shown shown' : List Node}
    (h : ReadsInFront depth s text shown) (hs : ShowAlike shown shown') :
    ReadsInFront depth s text shown' := by
  intro cs nodes rest hr
  obtain ⟨read, hr, hs'⟩ := h hr
  refine ⟨read, hr, fun ctx hc => ?_⟩
  rw [hs' ctx hc, Context.map_joinText_emitAll_append, hs ctx hc,
    ← Context.map_joinText_emitAll_append]

theorem readsInFront_char {c : Char} (h : s.isPlain c = true) :
    ReadsInFront (depth + 1) s [c] [.text (String.singleton c)] := by
  intro cs nodes rest hr
  obtain ⟨read, hr, hm⟩ := exists_run_cons h hr
  refine ⟨read, hr, fun ctx _ => ?_⟩
  rw [← ctx.map_joinText_emitAll_mergeTexts, hm, ctx.map_joinText_emitAll_mergeTexts]
  rfl

theorem showAlike_text_append (a b : String) : ShowAlike [.text a, .text b] [.text (a ++ b)] := by
  intro ctx _
  rw [ctx.map_joinText_emitAll_text, ctx.map_joinText_emitAll_text, ctx.map_joinText_emitAll_text]
  simp [Context.emitAll, Except.map, Value.joinText]

theorem readsInFront_text {cs : List Char} (hp : ∀ c ∈ cs, s.isPlain c = true)
    (hl : cs.length ≤ depth) : ReadsInFront depth s cs [.text (String.ofList cs)] := by
  induction cs with
  | nil =>
    refine ReadsInFront.nil.showing fun ctx _ => ?_
    rw [ctx.map_joinText_emitAll_text]
    simp [Context.emitAll, Except.map, Value.joinText]
  | cons c cs ih =>
    obtain ⟨hc, hcs⟩ := List.forall_mem_cons.mp hp
    rw [List.length_cons] at hl
    obtain ⟨depth, rfl⟩ := Nat.exists_eq_add_one_of_ne_zero (Nat.ne_zero_of_lt hl)
    have h := (readsInFront_char hc).append (ih hcs (Nat.le_of_succ_le hl))
    refine h.showing ?_
    rw [String.ofList_cons]
    exact showAlike_text_append _ _

theorem readsInFront_all {nodes : List Node}
    (h : ∀ n ∈ nodes, ReadsInFront depth s n.markup [n.escapeValues]) :
    ReadsInFront depth s (markupAll nodes) (escapeAllValues nodes) := by
  induction nodes with
  | nil => exact .nil
  | cons node nodes ih =>
    obtain ⟨hn, ht⟩ := List.forall_mem_cons.mp h
    exact hn.append (ih ht)

theorem isTag_escaped {tag : String} {attributes : List Attribute}
    (ha : isAllowedElement tag attributes = true) (ht : lowerAscii tag = tag)
    (hn : ∀ a ∈ attributes, lowerAscii a.name = a.name) :
    IsTag tag (attributes.map Attribute.escaped) where
  allowed := isAllowedElement_escaped ha
  tag_lower := ht
  name_lower := by simpa [Attribute.escaped] using hn
  value := by simp [Attribute.escaped, not_mem_escapeChars]

/-- An element is read as an element again if its children are read up to its closing tag. -/
theorem readsInFront_element {tag : String} {attributes : List Attribute} {children : List Node}
    (ht : IsTag tag (attributes.map Attribute.escaped))
    (hc : ReadsInFront depth s.element (markupAll children) (escapeAllValues children)) :
    ReadsInFront (depth + 1) s (markup (.element tag attributes children))
      [(Node.element tag attributes children).escapeValues] := by
  intro cs nodes rest hr
  have hstop : Run (expression depth s.element) ('<' :: '/' :: (tag.toList ++ '>' :: cs)) [] _ :=
    .stop (Closes.expression_eq_none (.closingTag rfl) depth)
  obtain ⟨read, hrun, hs⟩ := hc hstop
  have hm : markup (.element tag attributes children) ++ cs =
      '<' :: (tag.toList ++ ((attributes.map Attribute.escaped).flatMap Attribute.print ++ '>' ::
        (markupAll children ++ '<' :: '/' :: (tag.toList ++ '>' :: cs)))) := by
    simp [markup, opening, closing]
  have he : element (expression depth) s (markup (.element tag attributes children) ++ cs) =
      some (.element tag (attributes.map Attribute.escaped) read, cs) := by
    refine (element_eq_some_iff (advances_expression depth)).mpr ⟨⟨tag, _⟩, _, read, _, ?_, hrun,
      .inr ⟨tag, closeTag_print ht cs, .inl ⟨rfl, ht.allowed, rfl⟩⟩⟩
    rw [hm]
    exact openTag_print ht _
  have hstep : construct (expression depth) s (markup (.element tag attributes children) ++ cs) =
      some (.element tag (attributes.map Attribute.escaped) read, cs) := by
    rw [hm] at he ⊢
    rw [construct_angle, he, Option.some_or]
  refine ⟨_, .step hstep hr, fun ctx hcat => ?_⟩
  have hs := hs ctx hcat
  rw [List.append_nil] at hs
  rw [List.singleton_append, Node.escapeValues, Context.map_joinText_emitAll_cons,
    Context.map_joinText_emitAll_cons, Context.emit_element, Context.emit_element, hs]

theorem length_markup_le {n : Node} {nodes : List Node} (h : n ∈ nodes) :
    n.markup.length ≤ (markupAll nodes).length := by
  rw [markupAll_eq_flatMap, List.flatMap_def]
  exact (List.infix_of_mem_flatten (List.mem_map_of_mem h)).length_le

end

/-- What a tree of texts and elements is rendered as is read again in every scope outside of
arguments, and it shows the tree with its values escaped. -/
theorem readsInFront_of_isHtml (h : IsHtml links node) {depth : Nat} {s : Scope}
    (hl : s.links = links) (ha : s.inArgument = false) (hd : node.markup.length ≤ depth) :
    ReadsInFront depth s node.markup [node.escapeValues] := by
  induction h generalizing depth s with
  | @text content hp =>
    rw [← Scope.isPlain_eq_top hl ha] at hp
    have ht := readsInFront_text hp hd
    rwa [String.ofList_toList] at ht
  | @seq children _ ih =>
    have hc := readsInFront_all fun n hn => ih n hn hl ha ((length_markup_le hn).trans hd)
    refine hc.showing fun ctx hr => ?_
    rw [Node.escapeValues, Context.map_joinText_emitAll_seq hr, List.append_nil]
  | @element tag attributes children hallow ht hn _ ih =>
    -- The tags take at least the one level that the element itself needs.
    have hlen : (markupAll children).length <
        (markup (.element tag attributes children)).length := by
      simp only [markup, opening, List.length_append, List.length_cons]
      omega
    obtain ⟨depth, rfl⟩ := Nat.exists_eq_add_one_of_ne_zero (Nat.ne_zero_of_lt (hlen.trans_le hd))
    refine readsInFront_element (isTag_escaped hallow ht hn) (readsInFront_all fun n hm => ?_)
    have hle := length_markup_le hm
    exact ih n hm (s := s.element) hl ha (by omega)

/-- The characters that are escaped. -/
def escapedMarks : List Char := ['&', '<', '>', '\x22', '\x27']

/-- The two texts are the same if `P` holds, and otherwise the second one is longer. -/
def SameOrLonger (P : Prop) (as bs : List Char) : Prop := P ∧ bs = as ∨ ¬P ∧ as.length < bs.length

namespace SameOrLonger

variable {P Q : Prop} {as bs as' bs' : List Char}

theorem refl (as : List Char) : SameOrLonger True as as := .inl ⟨trivial, rfl⟩

theorem eq_iff (h : SameOrLonger P as bs) : bs = as ↔ P := by
  rcases h with ⟨hp, rfl⟩ | ⟨hp, hl⟩
  · exact iff_of_true rfl hp
  · exact iff_of_false (fun he => Nat.ne_of_gt hl (congrArg List.length he)) hp

theorem append (h : SameOrLonger P as bs) (h' : SameOrLonger Q as' bs') :
    SameOrLonger (P ∧ Q) (as ++ as') (bs ++ bs') := by
  rcases h with ⟨hp, rfl⟩ | ⟨hp, hl⟩ <;> rcases h' with ⟨hq, rfl⟩ | ⟨hq, hl'⟩
  · exact .inl ⟨⟨hp, hq⟩, rfl⟩
  · exact .inr ⟨fun h => hq h.2, by simpa using hl'⟩
  · exact .inr ⟨fun h => hp h.1, by simpa using hl⟩
  · exact .inr ⟨fun h => hp h.1, by simp only [List.length_append]; omega⟩

theorem between (h : SameOrLonger P as bs) (before after : List Char) :
    SameOrLonger P (before ++ as ++ after) (before ++ bs ++ after) := by
  have hb := ((refl before).append h).append (refl after)
  rwa [and_true, true_and] at hb

theorem flatMap {α : Type} {f g : α → List Char} {P : α → Prop} {l : List α}
    (h : ∀ a ∈ l, SameOrLonger (P a) (f a) (g a)) :
    SameOrLonger (∀ a ∈ l, P a) (l.flatMap f) (l.flatMap g) := by
  induction l with
  | nil => exact .inl ⟨by simp, rfl⟩
  | cons a l ih =>
    obtain ⟨ha, hl⟩ := List.forall_mem_cons.mp h
    rw [List.forall_mem_cons, List.flatMap_cons, List.flatMap_cons]
    exact ha.append (ih hl)

end SameOrLonger

theorem sameOrLonger_escapeChar (c : Char) :
    SameOrLonger (c ∉ escapedMarks) [c] (escapeChar c) := by
  by_cases hc : c ∈ escapedMarks
  · simp only [escapedMarks, List.mem_cons, List.not_mem_nil, or_false] at hc
    rcases hc with rfl | rfl | rfl | rfl | rfl <;> exact .inr (by decide)
  · refine .inl ⟨hc, ?_⟩
    simp only [escapedMarks, List.mem_cons, List.not_mem_nil, or_false, not_or] at hc
    simp only [escapeChar, hc, if_false]

theorem sameOrLonger_escapeChars (cs : List Char) :
    SameOrLonger (∀ c ∈ cs, c ∉ escapedMarks) cs (escapeChars cs) := by
  have h := @SameOrLonger.flatMap Char _ _ _ cs fun c _ => sameOrLonger_escapeChar c
  rwa [List.flatMap_singleton'] at h

/-- Escaping leaves marks of its own where it changes something. -/
theorem forall_not_mem_escapedMarks (cs : List Char) :
    (∀ c ∈ escapeChars cs, c ∉ escapedMarks) ↔ ∀ c ∈ cs, c ∉ escapedMarks := by
  constructor
  · intro h c hc hm
    have hs {d : Char} (hd : d ∈ escapeChar c) : d ∉ escapedMarks :=
      h d (List.mem_flatMap.mpr ⟨c, hc, hd⟩)
    rcases escapeChar_cases c with he | ⟨name, -, he⟩
    · exact hs (he ▸ List.mem_singleton_self c) hm
    · exact hs (he ▸ List.mem_cons_self) (by decide)
  · intro h
    rwa [(sameOrLonger_escapeChars cs).eq_iff.mpr h]

theorem sameOrLonger_print (a : Attribute) :
    SameOrLonger (∀ c ∈ a.value.toList, c ∉ escapedMarks) a.escaped.print
      a.escaped.escaped.print := by
  have h := sameOrLonger_escapeChars (escapeChars a.value.toList)
  rw [forall_not_mem_escapedMarks] at h
  have hp := h.between (' ' :: a.name.toList ++ "=\"".toList) ['\x22']
  simpa [Attribute.print, Attribute.escaped] using hp

/-- No value of the node is changed by escaping, whatever stands in its parts. -/
def Markup.Node.Unmarked : Node → Prop
  | element _ attributes _ => ∀ a ∈ attributes, ∀ c ∈ a.value.toList, c ∉ escapedMarks
  | _ => True

theorem sameOrLonger_markupAll {nodes : List Node}
    (h : ∀ n ∈ nodes, SameOrLonger (∀ m ∈ n.visits, m.Unmarked) n.markup n.escapeValues.markup) :
    SameOrLonger (∀ n ∈ nodes, ∀ m ∈ n.visits, m.Unmarked) (markupAll nodes)
      (markupAll (escapeAllValues nodes)) := by
  rw [markupAll_eq_flatMap, markupAll_eq_flatMap, escapeAllValues_eq_map, List.flatMap_map]
  exact .flatMap h

theorem sameOrLonger_markup (h : IsHtml links node) :
    SameOrLonger (∀ n ∈ node.visits, n.Unmarked) node.markup node.escapeValues.markup := by
  rw [forall_mem_visits_iff]
  induction h with
  | @text content _ =>
    simpa [Unmarked, parts, Node.escapeValues] using SameOrLonger.refl (text content).markup
  | @seq children _ ih =>
    simp only [← forall_mem_visits_iff] at ih
    simpa [Unmarked, parts, Node.escapeValues, markup] using sameOrLonger_markupAll ih
  | @element tag attributes children _ _ _ _ ih =>
    simp only [← forall_mem_visits_iff] at ih
    have ha := SameOrLonger.flatMap fun a (_ : a ∈ attributes) => sameOrLonger_print a
    have ho := ha.between ('<' :: tag.toList) ['>']
    have hm := (ho.append (sameOrLonger_markupAll ih)).between [] (closing tag)
    simpa [markup, Node.escapeValues, opening, List.flatMap_map, Unmarked, parts] using hm

/-- A message of text and elements is always rendered, and so is what it is rendered as. The second
rendering shows the tree of the message with its values escaped, and it gives the same text as the
first exactly when escaping changes no value of an element in the tree. -/
theorem Context.render_render {message : String}
    (h : ∀ c ∈ message.toList, isHtmlChar links c = true)
    (hr : ctx.registry.get? Builtin.concat.name = none) :
    ∃ tree text again, parse links message = .ok tree ∧ ctx.render links message = .ok text ∧
      ctx.render links text = .ok again ∧ ctx.evaluate tree.escapeValues = .ok again ∧
      (again = text ↔ ∀ tag attributes children, .element tag attributes children ∈ tree.visits →
        ∀ a ∈ attributes, ∀ c ∈ a.value.toList, c ∉ ['&', '<', '>', '\x22', '\x27']) := by
  obtain ⟨tree, hp, hh⟩ := exists_parse_isHtml h
  refine ⟨tree, String.ofList tree.markup, String.ofList tree.escapeValues.markup, hp, ?_, ?_,
    evaluate_of_isHtml hr hh.escapeValues, ?_⟩
  · rw [render, hp]
    exact evaluate_of_isHtml hr hh
  · have hreads := readsInFront_of_isHtml (s := Scope.top links) hh rfl rfl (Nat.le_refl _)
    obtain ⟨read, hrun, hs⟩ := hreads (.stop (advances_expression _ _).nil)
    rw [List.append_nil] at hrun
    have hp' : parse links (String.ofList tree.markup) = .ok (.concat read) :=
      parse_eq_ok_iff.mpr ⟨read, rfl, by rwa [String.toList_ofList]⟩
    have ht := map_joinText_emitAll_of_evaluate
      (List.forall_mem_singleton.mpr (evaluate_of_isHtml hr hh.escapeValues))
    rw [markupAll, markupAll, List.append_nil] at ht
    rw [render, hp', ← ht]
    exact (evaluate_seq hr _).trans
      ((ctx.map_joinText_emitAll_mergeTexts read).trans (hs ctx hr))
  · rw [String.ofList_inj, (sameOrLonger_markup hh).eq_iff]
    constructor
    · exact fun h tag attributes children hm => h _ hm
    · intro h n hm
      cases n with
      | element tag attributes children => exact h tag attributes children hm
      | _ => trivial

/-- A quoted `x` and stray marks in texts stay what they are after the first rendering. -/
theorem Context.render_render_settled :
    (∀ c ∈ "<B title='x'>1 > 0 & <i>b</I></b></u>".toList, isHtmlChar true c = true) ∧
      (Context.mk .empty [] ⟨"en", []⟩ .excerpt).registry.get? Builtin.concat.name = none ∧
      (Context.mk .empty [] ⟨"en", []⟩ .excerpt).render true
          "<B title='x'>1 > 0 & <i>b</I></b></u>" =
        .ok "<b title=\x22x\x22>1 > 0 & <i>b</i></b>&lt;/u>" ∧
      (Context.mk .empty [] ⟨"en", []⟩ .excerpt).render true
          "<b title=\x22x\x22>1 > 0 & <i>b</i></b>&lt;/u>" =
        .ok "<b title=\x22x\x22>1 > 0 & <i>b</i></b>&lt;/u>" := by
  have hc : ∀ c ∈ "<B title='x'>1 > 0 & <i>b</I></b></u>".toList, isHtmlChar true c = true :=
    List.all_eq_true.mp rfl
  have hp : parse true "<B title='x'>1 > 0 & <i>b</I></b></u>" =
      .ok (.seq [.element "b" [⟨"title", "x"⟩] [.text "1 > 0 & ", .element "i" [] [.text "b"]],
        .text "&lt;/u>"]) := by rfl
  have h : (Context.mk .empty [] ⟨"en", []⟩ .excerpt).render true
        "<B title='x'>1 > 0 & <i>b</I></b></u>" =
      .ok "<b title=\x22x\x22>1 > 0 & <i>b</i></b>&lt;/u>" :=
    toOption_eq_some_iff.mp (by decide +kernel)
  obtain ⟨tree, text, again, hp', ht, ha, -, hiff⟩ :=
    @render_render true ⟨.empty, [], ⟨"en", []⟩, .excerpt⟩ _ hc rfl
  obtain rfl := Except.ok.inj (hp'.symm.trans hp)
  obtain rfl := Except.ok.inj (ht.symm.trans h)
  have he : again = "<b title=\x22x\x22>1 > 0 & <i>b</i></b>&lt;/u>" := by
    refine hiff.mpr fun tag attributes children hm => ?_
    simp only [visits, visitsAll, List.mem_append, List.mem_cons, List.not_mem_nil, or_false,
      reduceCtorEq, false_or, Node.element.injEq] at hm
    rcases hm with ⟨-, rfl, -⟩ | ⟨-, rfl, -⟩ <;> simp
  exact ⟨hc, rfl, h, he ▸ ha⟩

/-- A value that holds an `&` is escaped a second time. -/
theorem Context.exists_render_render_ne :
    (∀ c ∈ "<b title=\x22a&b\x22>x</b>".toList, isHtmlChar true c = true) ∧
      let ctx : Context := ⟨.empty, [], ⟨"en", []⟩, .excerpt⟩
      ∃ text, ctx.render true "<b title=\x22a&b\x22>x</b>" = .ok text ∧
        ctx.render true text ≠ .ok text := by
  let ctx : Context := ⟨.empty, [], ⟨"en", []⟩, .excerpt⟩
  have h : ctx.render true "<b title=\x22a&b\x22>x</b>" =
      .ok "<b title=\x22a&amp;b\x22>x</b>" := toOption_eq_some_iff.mp (by decide +kernel)
  have h' : ctx.render true "<b title=\x22a&amp;b\x22>x</b>" =
      .ok "<b title=\x22a&amp;amp;b\x22>x</b>" := toOption_eq_some_iff.mp (by decide +kernel)
  refine ⟨List.all_eq_true.mp rfl, _, h, fun he => ?_⟩
  exact absurd (Except.ok.inj (h'.symm.trans he)) (by decide)

end WikiMessage
