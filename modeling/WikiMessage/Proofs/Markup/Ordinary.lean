import Mathlib.Data.List.Chain
import WikiMessage.Proofs.Evaluation.Merged
import WikiMessage.Proofs.Language.Data
import WikiMessage.Proofs.Markup.Failure

/-!
# Ordinary text

A message in which no construct begins is text from end to end. It is read in pieces, runs of plain
characters and single sigils, and the pieces join to one text in which only `<` is escaped.
-/

namespace WikiMessage.Markup

open WikiMessage.Text Rule Operation

theorem Node.mergeInto_text_append (a b : String) (nodes : List Node) :
    mergeInto (.text (a ++ b)) nodes = mergeInto (.text a) (mergeInto (.text b) nodes) := by
  cases nodes with
  | nil => rfl
  | cons node nodes => cases node <;> simp [mergeInto, String.append_assoc]

section

variable {inner : Scope → Rule Node} {s : Scope} {c : Char} {cs rest : List Char}

theorem textChar_of_isPlain (h : s.isPlain c = true) : textChar c = [c] := by
  rw [textChar, if_neg]
  rintro rfl
  cases h

theorem ne_backslash_of_isPlain (h : s.isPlain c = true) : c ≠ '\\' := by
  rintro rfl
  cases h

/-- The only sigil that may be plain is a bracket where brackets make no links. -/
theorem links_eq_false_of_isSigil (hs : isSigil c = true) (h : s.isPlain c = true) :
    c = '[' ∧ s.links = false := by
  simp only [isSigil, Bool.or_eq_true, decide_eq_true_eq] at hs
  rcases hs with ((rfl | rfl) | rfl) | rfl
  · cases h
  · cases h
  · exact ⟨rfl, by simpa [Scope.isPlain] using h⟩
  · cases h

/-- Where a run of text begins nothing else does. -/
theorem construct_of_textRun {p : Node × List Char} (h : textRun s.isPlain cs = some p) :
    construct inner s cs = some p := by
  cases cs with
  | nil => cases h
  | cons c cs =>
    cases hc : isSigil c with
    | false => rw [construct_of_not_sigil hc, h, Option.some_or]
    | true =>
      have hb : c ≠ '\\' := by
        rintro rfl
        cases hc
      have hp : s.isPlain c = true := by
        cases hp : s.isPlain c with
        | true => rfl
        | false =>
          rw [textRun_eq_none_of_head hb hp] at h
          cases h
      obtain ⟨rfl, hl⟩ := links_eq_false_of_isSigil hc hp
      have h₁ : pageLink inner s ('[' :: cs) = none := by simp [pageLink, hl]
      have h₂ : webLink inner s ('[' :: cs) = none := by simp [webLink, hl]
      rw [construct_bracket, h₁, h₂, h, Option.none_or, Option.none_or, Option.some_or]

/-- A plain character in front of a text joins what the reading of the text begins with. -/
theorem exists_run_cons (hc : s.isPlain c = true) {nodes : List Node}
    (hr : Run (construct inner s) cs nodes rest) :
    ∃ read, Run (construct inner s) (c :: cs) read rest ∧
      Node.mergeTexts read = Node.mergeTexts (.text (String.singleton c) :: nodes) := by
  have hp : plainChar s.isPlain (c :: cs) = some ([c], cs) :=
    plainChar_eq_some_iff.mpr
      ⟨c, (textChar_of_isPlain hc).symm, .inr ⟨rfl, ne_backslash_of_isPlain hc, hc⟩⟩
  cases ht : textRun s.isPlain cs with
  | none =>
    -- No text follows, so the character is a text of its own.
    have ht' : textRun s.isPlain (c :: cs) = some (.text (String.singleton c), cs) :=
      textRun_eq_some_iff.mpr
        ⟨[[c]], rfl, List.cons_ne_nil _ _, .step hp (.stop (textRun_eq_none_iff.mp ht))⟩
    exact ⟨_, .step (construct_of_textRun ht') hr, rfl⟩
  | some p =>
    -- The text that follows is read from this character on, up to the same place.
    obtain ⟨node, mid⟩ := p
    have hs : construct inner s cs = some (node, mid) := construct_of_textRun ht
    obtain ⟨pieces, rfl, -, hp'⟩ := textRun_eq_some_iff.mp ht
    have ht' : textRun s.isPlain (c :: cs) =
        some (.text (String.singleton c ++ String.ofList pieces.flatten), mid) :=
      textRun_eq_some_iff.mpr ⟨[c] :: pieces, by simp, List.cons_ne_nil _ _, .step hp hp'⟩
    cases hr with
    | stop hn =>
      rw [hn] at hs
      cases hs
    | step hs' tail =>
      obtain ⟨rfl, rfl⟩ := Prod.mk.inj (Option.some.inj (hs.symm.trans hs'))
      refine ⟨_, .step (construct_of_textRun ht') tail, ?_⟩
      exact Node.mergeInto_text_append _ _ _

end

/-- No construct and no escape begins in the text: no backslash, no two opening braces, no `$` with
a digit and no `<` with a letter behind it, and no opening bracket if brackets make links. -/
structure IsOrdinary (links : Bool) (cs : List Char) : Prop where
  noEscape : '\\' ∉ cs
  noCall : cs.IsChain fun c d => ¬(c = '{' ∧ d = '{')
  noPlaceholder : cs.IsChain fun c d => ¬(c = '$' ∧ d.isDigit = true)
  noElement : cs.IsChain fun c d => ¬(c = '<' ∧ d.isAlpha = true)
  noLink : links = true → '[' ∉ cs

/-- A text as the nodes of a sequence: no node for the empty text. -/
def Node.ofText : List Char → List Node
  | [] => []
  | c :: cs => [.text (String.ofList (c :: cs))]

theorem Node.mergeInto_ofText {cs : List Char} (h : cs ≠ []) (ds : List Char) :
    mergeInto (.text (String.ofList cs)) (ofText ds) = ofText (cs ++ ds) := by
  obtain ⟨c, cs, rfl⟩ := List.exists_cons_of_ne_nil h
  cases ds with
  | nil => simp [ofText, mergeInto]
  | cons d ds =>
    rw [ofText, mergeInto_text_text, ← String.ofList_append]
    rfl

section

variable {inner : Scope → Rule Node} {links : Bool} {c : Char} {cs : List Char}

theorem textChar_ne_nil (c : Char) : textChar c ≠ [] := by
  unfold textChar
  split <;> simp

theorem IsOrdinary.tail (h : IsOrdinary links (c :: cs)) : IsOrdinary links cs where
  noEscape hm := h.noEscape (List.mem_cons_of_mem _ hm)
  noCall := h.noCall.tail
  noPlaceholder := h.noPlaceholder.tail
  noElement := h.noElement.tail
  noLink hl hm := h.noLink hl (List.mem_cons_of_mem _ hm)

theorem IsOrdinary.call_eq_none {s : Scope} (h : IsOrdinary links cs) : call inner s cs = none := by
  refine Option.eq_none_iff_forall_ne_some.mpr fun p hp => ?_
  obtain ⟨name, mid, args, -, -, -, -, rfl, -⟩ := call_eq_some_iff.mp hp
  exact h.noCall.rel ⟨rfl, rfl⟩

theorem IsOrdinary.placeholder_eq_none (h : IsOrdinary links cs) :
    placeholder cs = none := by
  refine Option.eq_none_iff_forall_ne_some.mpr fun p hp => ?_
  obtain ⟨ds, n, -, rfl, hd, -, hv, -⟩ := placeholder_eq_some_iff.mp hp
  cases ds with
  | nil => cases hv
  | cons d ds => exact h.noPlaceholder.rel ⟨rfl, hd d List.mem_cons_self⟩

theorem IsOrdinary.element_eq_none {s : Scope} (h : IsOrdinary links cs) :
    element inner s cs = none := by
  refine Option.eq_none_iff_forall_ne_some.mpr fun p hp => ?_
  simp only [element, Option.bind_eq_bind, Option.bind_eq_some_iff] at hp
  obtain ⟨q, hq, -⟩ := hp
  obtain ⟨start, name, mid, attributes, left, -, rfl, hw, -⟩ := openTag_eq_some_iff.mp hq
  obtain ⟨d, tail, -, rfl, hd, -⟩ := word_eq_some_iff.mp hw
  exact h.noElement.rel ⟨rfl, hd⟩

/-- A sigil of an ordinary text begins nothing and is not kept from being text itself. -/
theorem IsOrdinary.construct_of_not_plain (h : IsOrdinary links (c :: cs))
    (hp : (Scope.top links).isPlain c = false) :
    construct inner (Scope.top links) (c :: cs) =
      some (.text (String.ofList (textChar c)), cs) := by
  have hb : c ≠ '\\' := fun he => h.noEscape (he ▸ List.mem_cons_self)
  have hl : c ≠ '[' := by
    rintro rfl
    cases links with
    | false => cases hp
    | true => exact h.noLink rfl List.mem_cons_self
  have hs : stray (Scope.top links) (c :: cs) = some (.text (String.ofList (textChar c)), cs) := by
    refine stray_eq_some_iff.mpr ⟨c, rfl, ?_, rfl⟩
    cases hi : isStray (Scope.top links) (c :: cs) with
    | true => rfl
    | false =>
      obtain ⟨rfl, hd⟩ := isStray_top hb hp hi
      obtain ⟨inside, rfl⟩ := List.head?_eq_some_iff.mp hd
      exact absurd ⟨rfl, rfl⟩ h.noCall.rel
  rw [construct_eq_or, h.call_eq_none, h.placeholder_eq_none, pageLink_eq_none_of_head hl,
    webLink_eq_none_of_head hl, h.element_eq_none, textRun_eq_none_of_head hb hp, hs]
  rfl

/-- An ordinary text is read to its end, as pieces that join to the text itself. -/
theorem IsOrdinary.exists_run (hi : InnerAdvances inner) (h : IsOrdinary links cs) :
    ∃ nodes, Run (construct inner (Scope.top links)) cs nodes [] ∧
      Node.mergeTexts nodes = Node.ofText (cs.flatMap textChar) := by
  induction cs with
  | nil => exact ⟨[], .stop (advances_construct hi _).nil, rfl⟩
  | cons c cs ih =>
    obtain ⟨nodes, hr, hm⟩ := ih h.tail
    have hc := Node.mergeInto_ofText (textChar_ne_nil c) (cs.flatMap textChar)
    rw [← hm] at hc
    cases hp : (Scope.top links).isPlain c with
    | true =>
      obtain ⟨read, hr, he⟩ := exists_run_cons hp hr
      rw [textChar_of_isPlain hp] at hc
      exact ⟨read, hr, by rw [he, List.flatMap_cons, textChar_of_isPlain hp, ← hc]; rfl⟩
    | false => exact ⟨_, .step (h.construct_of_not_plain hp) hr, hc⟩

theorem IsOrdinary.parse {message : String} (h : IsOrdinary links message.toList) :
    parse links message = .ok (.seq (Node.ofText (message.toList.flatMap textChar))) := by
  refine parse_eq_ok_iff.mpr ?_
  cases hl : message.toList.length with
  | zero =>
    rw [List.length_eq_zero_iff.mp hl]
    exact ⟨[], rfl, .stop rfl⟩
  | succ depth =>
    obtain ⟨nodes, hr, hm⟩ := h.exists_run (advances_expression depth)
    exact ⟨nodes, by rw [Node.concat, hm], hr⟩

end
end Markup

open Markup Operation

theorem Context.map_joinText_emitAll_ofText (ctx : Context) (cs : List Char) :
    (ctx.emitAll (Node.ofText cs)).map Value.joinText = .ok (String.ofList cs) := by
  cases cs with
  | nil => rfl
  | cons c cs =>
    rw [Node.ofText, map_joinText_emitAll_text]
    simp [emitAll, Except.map, Value.joinText]

/-- Ordinary text is read as one text, or as none if it is empty, and it is rendered as it stands,
but for each `<`, which is escaped. -/
theorem Context.render_ordinary {links : Bool} {message : String}
    (h : IsOrdinary links message.toList) :
    (∃ nodes, parse links message = .ok (.seq nodes) ∧ nodes.length ≤ 1 ∧
      ∀ n ∈ nodes, ∃ content, n = .text content) ∧
    ∀ ctx : Context, ctx.registry.get? Builtin.concat.name = none →
      ctx.render links message = .ok (String.ofList
        (message.toList.flatMap fun c => if c = '<' then "&lt;".toList else [c])) := by
  refine ⟨⟨_, h.parse, ?_⟩, fun ctx hr => ?_⟩
  · cases message.toList.flatMap textChar with
    | nil => simp [Node.ofText]
    | cons c cs => simp [Node.ofText]
  · rw [render, h.parse]
    exact (evaluate_seq hr _).trans (ctx.map_joinText_emitAll_ofText _)

/-- Closing tags and stray sigils of every kind are kept as text. -/
theorem Context.render_ordinary_sigils :
    IsOrdinary true "</b> \x7ba\x7d $x ]]|<3 \x7d\x7d $".toList ∧
      (Context.mk .empty [] ⟨"en", []⟩ .excerpt).render true
          "</b> \x7ba\x7d $x ]]|<3 \x7d\x7d $" =
        .ok "&lt;/b> \x7ba\x7d $x ]]|&lt;3 \x7d\x7d $" := by
  have h : IsOrdinary true "</b> \x7ba\x7d $x ]]|<3 \x7d\x7d $".toList :=
    ⟨by decide, by decide, by decide, by decide, by decide⟩
  exact ⟨h, (render_ordinary h).2 _ rfl⟩

end WikiMessage
