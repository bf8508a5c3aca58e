import WikiMessage.Proofs.Markup.Agreement

/-!
# Messages without brackets

Whether brackets make links is seen at brackets only. Two readings of a text without them, one that
makes links and one that does not, go side by side through every construct, and where one of them
fails the other one fails too.
-/

namespace WikiMessage.Markup

open WikiMessage.Text Rule

/-- No link begins or ends in the text. -/
structure Unbracketed (cs : List Char) : Prop where
  opening : '[' ∉ cs
  closing : ']' ∉ cs

/-- The scope with brackets making links or not. -/
def Scope.withLinks (s : Scope) (links : Bool) : Scope := { s with links }

section

variable {cs rest : List Char} {plain plain' : Char → Bool}

theorem Unbracketed.of_suffix (h : Unbracketed cs) (hs : rest <:+ cs) : Unbracketed rest where
  opening := fun hm => h.opening (hs.subset hm)
  closing := fun hm => h.closing (hs.subset hm)

theorem Unbracketed.isPlain (h : Unbracketed cs) (s : Scope) (links : Bool) :
    ∀ c ∈ cs, s.isPlain c = (s.withLinks links).isPlain c := by
  intro c hc
  have ho : c ≠ '[' := fun he => h.opening (he ▸ hc)
  have hcl : c ≠ ']' := fun he => h.closing (he ▸ hc)
  simp only [Scope.isPlain, Scope.withLinks, ho, hcl, decide_false, Bool.or_self,
    Bool.false_eq_true, if_false]

/-- Two classes that agree on the characters of a text find the same run of it. -/
theorem textRun_congr (h : ∀ c ∈ cs, plain c = plain' c) :
    textRun plain cs = textRun plain' cs := by
  have hp : AgreeOnEnds cs (plainChar plain) (plainChar plain') := by
    intro rest hs
    cases rest with
    | nil => rfl
    | cons c rest => simp only [plainChar, h c (hs.subset List.mem_cons_self)]
  rw [textRun, textRun, hp.repeated1 (advances_plainChar plain) (List.suffix_refl cs)]

end

section

variable {inner other : Scope → Rule Node} {links : Bool} {cs : List Char}

theorem Unbracketed.pageLink_eq_none (h : Unbracketed cs) (s : Scope) :
    pageLink inner s cs = none := by
  cases cs with
  | nil => simp [pageLink, dropStart?]
  | cons c cs =>
    exact pageLink_eq_none_of_head fun he => h.opening (he ▸ List.mem_cons_self)

theorem Unbracketed.webLink_eq_none (h : Unbracketed cs) (s : Scope) :
    webLink inner s cs = none := by
  cases cs with
  | nil => simp [webLink, dropStart?]
  | cons c cs =>
    exact webLink_eq_none_of_head fun he => h.opening (he ▸ List.mem_cons_self)

/-- The two rules read every text without brackets alike, whether brackets make links or not. -/
def IgnoresLinks (links : Bool) (inner other : Scope → Rule Node) : Prop :=
  ∀ ⦃cs⦄, Unbracketed cs → ∀ s, inner s cs = other (s.withLinks links) cs

theorem IgnoresLinks.onEnds (hl : IgnoresLinks links inner other) (h : Unbracketed cs) (s : Scope) :
    AgreeOnEnds cs (inner s) (other (s.withLinks links)) :=
  fun _ hs => hl (h.of_suffix hs) s

theorem ignoresLinks_construct (hi : InnerAdvances inner) (hl : IgnoresLinks links inner other) :
    IgnoresLinks links (construct inner) (construct other) := by
  intro cs h s
  have ht := h.of_suffix (List.tail_suffix cs)
  have hc : call inner s cs = call other (s.withLinks links) cs :=
    call_congr (hi s.argument) (hl.onEnds ht s.argument)
  have he : element inner s cs = element other (s.withLinks links) cs :=
    element_congr (hi s.element) (hl.onEnds ht s.element)
  have hr : textRun s.isPlain cs = textRun (s.withLinks links).isPlain cs :=
    textRun_congr (h.isPlain s links)
  -- A sigil that begins nothing is text wherever brackets do what they do.
  have hs : stray s cs = stray (s.withLinks links) cs := rfl
  simp only [construct, h.pageLink_eq_none, h.webLink_eq_none, hc, he, hr, hs]

theorem ignoresLinks_expression (links : Bool) (depth : Nat) :
    IgnoresLinks links (expression depth) (expression depth) := by
  induction depth with
  | zero => exact fun _ _ _ => rfl
  | succ depth ih => exact ignoresLinks_construct (advances_expression depth) ih

end

/-- A message without brackets has the same tree, or the same error, whether brackets make links or
not. -/
theorem parse_links_eq {message : String} (ho : '[' ∉ message.toList) (hc : ']' ∉ message.toList) :
    parse true message = parse false message := by
  have ha := advances_expression message.toList.length (Scope.top true)
  have h := (ignoresLinks_expression false message.toList.length).onEnds ⟨ho, hc⟩ (Scope.top true)
  simp only [parse, h.repeated ha]
  rfl

/-- A call that is never closed in an element is refused at the same place. -/
theorem parse_links_eq_unclosed :
    '[' ∉ "<b>a|</b>\x7b\x7bn:$1|\x7b".toList ∧ ']' ∉ "<b>a|</b>\x7b\x7bn:$1|\x7b".toList ∧
      parse true "<b>a|</b>\x7b\x7bn:$1|\x7b" = .error ⟨"<b>a|</b>\x7b\x7bn:$1|\x7b", 9, some '{'⟩ ∧
      parse true "<b>a|</b>\x7b\x7bn:$1|\x7b" = parse false "<b>a|</b>\x7b\x7bn:$1|\x7b" := by
  have ho : '[' ∉ "<b>a|</b>\x7b\x7bn:$1|\x7b".toList := by decide
  have hc : ']' ∉ "<b>a|</b>\x7b\x7bn:$1|\x7b".toList := by decide
  exact ⟨ho, hc, rfl, parse_links_eq ho hc⟩

end WikiMessage.Markup
