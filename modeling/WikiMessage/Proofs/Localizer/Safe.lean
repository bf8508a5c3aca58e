import WikiMessage.Proofs.Evaluation.Outcome
import WikiMessage.Proofs.Evaluation.Safe
import WikiMessage.Proofs.Localizer.Cache

/-!
# What a localizer shows for a key

A localizer shows a rendered text or, where rendering fails, the template as it was written. Which
of the two it is depends on the template and the operations only. A rendered text is safe markup if
its parameters are and no symbol of numbers opens a tag. A template is not: a tag that rendering
would have escaped stands in it as a tag, and nothing of the parameters stands in it.
-/

namespace WikiMessage

open Text Markup Operation

/-- The message can be read, and each operation in it can be called. -/
def Renderable (registry : Registry) (links : Bool) (message : String) : Prop :=
  ∃ node, parse links message = .ok node ∧
    ∀ name args, .call name args ∈ node.visits →
      Text.lower name ∈ registry.registered ∨ ∃ b ∈ Builtin.all, b.name = Text.lower name

theorem map_eq_ok_iff {ε α β : Type} {x : Except ε α} {f : α → β} {b : β} :
    x.map f = .ok b ↔ ∃ a, x = .ok a ∧ f a = b := by
  cases x <;> simp [Except.map]

namespace Context

variable {ctx : Context} {links : Bool} {message text : String}

/-- Elements that were parsed are allowed, so operations alone decide. -/
theorem exists_evaluate_iff {node : Node} (hn : parse links message = .ok node) :
    (∃ text, ctx.evaluate node = .ok text) ↔
      ∀ name args, .call name args ∈ node.visits →
        Text.lower name ∈ ctx.registry.registered ∨ ∃ b ∈ Builtin.all, b.name = Text.lower name := by
  rw [← failure?_eq_none_iff, failure?_evaluate, Node.firstOffence?_eq_none_iff]
  refine and_iff_left fun tag attributes children hm => ?_
  cases Node.sanitized_of_mem_visits (parse_sanitized hn) _ hm with
  | element ha _ => exact ha

theorem exists_render_iff (ctx : Context) (links : Bool) (message : String) :
    (∃ text, ctx.render links message = .ok text) ↔ Renderable ctx.registry links message := by
  rw [Renderable, render]
  cases hn : parse links message with
  | ok node => simp [exists_evaluate_iff hn]
  | error e => simp

theorem isSafe_render {d : Decoder} (hr : ctx.registry = .empty)
    (ho : ctx.data.symbols.OpensNoTag) (hp : ∀ v ∈ ctx.params, v.IsSafe d)
    (h : ctx.render links message = .ok text) :
    SafeMarkup d text.toList := by
  rw [render] at h
  cases hn : parse links message with
  | error e =>
    rw [hn] at h
    cases h
  | ok node =>
    rw [hn] at h
    obtain ⟨v, hv, rfl⟩ := map_eq_ok_iff.mp h
    exact isSafe_emit hr ho hp (parse_sanitized hn) v hv

end Context

/-- The name of an opening tag is that of an allowed element or of a link. -/
theorem word_of_standsAtTag {d : Decoder} {after : List Char} (h : StandsAtTag d after)
    (hs : after.head? ≠ some '/') :
    ∃ tag rest, tag ∈ "a" :: allowedElements ∧
      word Char.isAlphanum after = some (tag.toList, rest) := by
  obtain ⟨tag, attributes, rest, ht, he | he⟩ := h
  · have hm : tag ∈ "a" :: allowedElements := by
      cases ht with
      | element ht _ => exact List.mem_cons_of_mem _ ht
      | link _ => exact List.mem_cons_self
      | titledLink _ _ => exact List.mem_cons_self
    have hw : after = tag.toList ++ (attributes.flatMap Attribute.print ++ '>' :: rest) := by
      simpa [opening] using he
    refine ⟨tag, _, hm, hw ▸ word_append ht.isWord ?_⟩
    cases attributes with
    | nil => simp
    | cons a attributes => simp [Attribute.print]
  · rw [closing] at he
    obtain rfl := (List.cons.inj he).2
    exact absurd rfl hs

namespace Localizer

variable {l : Localizer} {key : String} {params : List Value}

theorem Coherent.localize_of_renderable (h : l.Coherent) (params : List Value)
    (hr : Renderable l.registry l.links (l.template key)) :
    (l.context params).render l.links (l.template key) = .ok (l.localize key params).2 := by
  obtain ⟨text, ht⟩ := ((l.context params).exists_render_iff _ _).mpr hr
  obtain ⟨cache, -, he⟩ := h.localize_eq key params
  rw [he, renderAnew, ht, shown]

theorem Coherent.localize_of_not_renderable (h : l.Coherent) (params : List Value)
    (hr : ¬Renderable l.registry l.links (l.template key)) :
    (l.localize key params).2 = l.template key := by
  obtain ⟨cache, -, he⟩ := h.localize_eq key params
  rw [he, renderAnew]
  cases ht : (l.context params).render l.links (l.template key) with
  | ok text => exact absurd (((l.context params).exists_render_iff _ _).mp ⟨text, ht⟩) hr
  | error e => rw [shown]

/-- After any session that registers no operation, a template that can be read and calls built-in
operations only is shown rendered, and that is safe markup whatever the template's own text is, if
no symbol of numbers has a `<`: each `<` opens or closes a tag. Any other template is shown as it
was written, whatever the parameters are. -/
theorem localize_safe_or_template (d : Decoder) {data : LanguageData}
    (ho : data.symbols.OpensNoTag) (language finalFallback : String) (links : Bool)
    (table : Option Locale.FallbackTable) (requests : List Request) (key : String)
    (hl : l = ((create data language finalFallback links table).run requests).1)
    (hr : l.registry = .empty) (hp : ∀ v ∈ params, '<' ∉ v.toText.toList) :
    (Renderable .empty l.links (l.template key) →
      (l.context params).render l.links (l.template key) = .ok (l.localize key params).2 ∧
        SafeMarkup d (l.localize key params).2.toList ∧
        ∀ before after, (l.localize key params).2.toList = before ++ '<' :: after →
          StandsAtTag d after) ∧
      (¬Renderable .empty l.links (l.template key) →
        (l.localize key params).2 = l.template key) := by
  obtain ⟨cache, hc, he⟩ :=
    (coherent_create data language finalFallback links table).run_eq requests
  have hcoh : l.Coherent := by
    rw [hl, he]
    exact hc
  have hd : l.data = data := by
    rw [hl, he]
    exact (ignoresCache_runAnew requests).data _
  have hol : l.data.symbols.OpensNoTag := by rwa [hd]
  constructor
  · intro h
    have ht := hcoh.localize_of_renderable params (hr ▸ h)
    have hs : SafeMarkup d (l.localize key params).2.toList :=
      Context.isSafe_render hr hol (fun v hv => .of_not_mem (hp v hv)) ht
    exact ⟨ht, hs, fun _ _ hb => hs.eachAngle hb⟩
  · intro h
    exact hcoh.localize_of_not_renderable params (hr ▸ h)

/-- A message that can be rendered and one whose call is not finished, both with a script. -/
def notices : Localizer :=
  ((create .excerpt "en" "en" true none).run
    [.load (.object [("alert", .string "<script>alert(1)</script>\x7b\x7b"),
      ("hello", .string "<b>Hello, $1</b><script>")]) none]).1

theorem localize_safe_or_template_notices :
    LanguageData.excerpt.symbols.OpensNoTag ∧ notices.registry = .empty ∧
      (∀ v ∈ [Value.string "you"], '<' ∉ v.toText.toList) ∧
      (notices.localize "hello" [.string "you"]).2 = "<b>Hello, you</b>&lt;script&gt;" ∧
      SafeMarkup .basic "<b>Hello, you</b>&lt;script&gt;".toList ∧
      (notices.localize "alert" [.string "you"]).2 = "<script>alert(1)</script>\x7b\x7b" := by
  have hp : ∀ v ∈ [Value.string "you"], '<' ∉ v.toText.toList := by decide
  have ho : LanguageData.excerpt.symbols.OpensNoTag := LanguageData.opensNoTag_excerpt
  have hs (key : String) := localize_safe_or_template .basic ho "en" "en" true none _ key
    (show notices = _ from rfl) rfl hp
  have ht : (notices.localize "hello" [.string "you"]).2 = "<b>Hello, you</b>&lt;script&gt;" := by
    decide +kernel
  have hr : Renderable .empty notices.links (notices.template "hello") :=
    ((notices.context [.string "you"]).exists_render_iff _ _).mp
      ⟨"<b>Hello, you</b>&lt;script&gt;", toOption_eq_some_iff.mp (by decide +kernel)⟩
  have hn : ¬Renderable .empty notices.links (notices.template "alert") := by
    rintro ⟨node, hp, -⟩
    have he : (parse notices.links (notices.template "alert")).toOption.isNone = true := by
      decide +kernel
    rw [hp] at he
    cases he
  have hk : notices.template "alert" = "<script>alert(1)</script>\x7b\x7b" := by decide +kernel
  exact ⟨ho, rfl, hp, ht, ht ▸ ((hs "hello").1 hr).2.1, hk ▸ (hs "alert").2 hn⟩

/-- No operation is registered and no parameter has a `<`, but a `<` is shown that begins the tag of
no allowed element and of no link. -/
theorem exists_localize_script :
    notices.registry = .empty ∧
      ∃ before after, (notices.localize "alert" []).2.toList = before ++ '<' :: after ∧
        ¬∃ d, StandsAtTag d after := by
  refine ⟨rfl, [], "script>alert(1)</script>\x7b\x7b".toList, by decide +kernel, ?_⟩
  rintro ⟨d, h⟩
  obtain ⟨tag, rest, hm, hw⟩ := word_of_standsAtTag h (by decide)
  have hs : tag = "script" := by
    rw [← String.toList_inj]
    exact (congrArg Prod.fst (Option.some.inj hw)).symm
  subst hs
  revert hm
  decide

end Localizer
end WikiMessage
