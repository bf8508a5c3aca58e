import WikiMessage.Evaluation
import WikiMessage.Proofs.Markup.Sanitized
import WikiMessage.Proofs.Operation.Safe

/-!
# Rendered messages are safe markup

Without operations of others, a message whose parameters are safe markup is rendered as safe markup,
if no symbol of numbers opens a tag. Its tree is sanitized, so that tags come from its elements and
links and from the parameters only, and every operation between the leaves and the result keeps them
whole and nested.
-/

namespace WikiMessage

open WikiMessage.Text Markup Operation

variable {d : Decoder}

theorem isAscii_of_isAttributeChar {c : Char} (h : isAttributeChar c = true) :
    isAscii c = true := by
  simp only [isAttributeChar, Bool.or_eq_true, decide_eq_true_eq] at h
  rcases h with h | rfl
  · exact isAscii_of_isAlphanum h
  · rfl

/-- A name on the allowlist has the same small letters with and without tables. -/
theorem lower_eq_of_isWord {more : Char → Bool} {s : String}
    (hm : ∀ c, more c = true → isAscii c = true) (h : isWord more (lowerAscii s).toList = true) :
    Text.lower s = lowerAscii s := by
  obtain ⟨c, tail, he, hc, ht⟩ := isWord_iff.mp h
  refine lower_eq_lowerAscii ?_
  rw [he]
  refine List.forall_mem_cons.mpr ⟨isAscii_of_isAlphanum ?_, fun c hc => hm c (ht c hc)⟩
  simp [Char.isAlphanum, hc]

theorem lower_name_of_isAllowed {tag : String} {a : Attribute}
    (h : isAllowedAttribute tag a = true) : Text.lower a.name = lowerAscii a.name :=
  lower_eq_of_isWord (fun _ => isAscii_of_isAttributeChar) (isWord_of_isAllowedAttribute h)

theorem lower_tag_of_isAllowed {tag : String} (h : lowerAscii tag ∈ allowedElements) :
    Text.lower tag = lowerAscii tag :=
  lower_eq_of_isWord (fun _ => isAscii_of_isAlphanum) (isWord_of_mem_allowedElements _ h)

theorem safeAttribute_of_isAllowed {tag : String} {a : Attribute}
    (h : isAllowedAttribute tag a = true) :
    SafeAttribute d tag ⟨Text.lower a.name, Text.escape a.value⟩ := by
  have hl := lower_name_of_isAllowed h
  obtain ⟨hn, hs⟩ := isAllowedAttribute_iff.mp h
  refine ⟨hl ▸ hn, ?_, fun he => ?_⟩
  · simpa using isQuotable_escapeChars a.value.toList
  · have hv : isDangerousStyle a.value = false := by
      rw [← Bool.not_eq_true]
      exact fun hv => hs ⟨hl ▸ he, hv⟩
    simpa [d.decode_escapeChars] using hv

theorem toList_renderAttribute (a : Attribute) : (renderAttribute a).toList =
    Attribute.print ⟨Text.lower a.name, Text.escape a.value⟩ := by
  simp [renderAttribute, Attribute.print]

theorem toList_renderElement (tag : String) (attributes : List Attribute) (inner : String) :
    (renderElement tag attributes inner).toList =
      opening (Text.lower tag) (attributes.map fun a => ⟨Text.lower a.name, Text.escape a.value⟩) ++
        inner.toList ++ closing (Text.lower tag) := by
  simp [renderElement, opening, closing, List.flatMap_map, toList_renderAttribute]

theorem safe_renderElement {tag : String} {attributes : List Attribute} {inner : String}
    (h : isAllowedElement tag attributes = true) (hi : SafeMarkup d inner.toList) :
    SafeMarkup d (renderElement tag attributes inner).toList := by
  obtain ⟨ht, ha⟩ := isAllowedElement_iff.mp h
  have hl := lower_tag_of_isAllowed ht
  have hs : SafeTag d (Text.lower tag)
      (attributes.map fun a => ⟨Text.lower a.name, Text.escape a.value⟩) := by
    rw [hl]
    refine .element ht fun b hb => ?_
    obtain ⟨a, hm, rfl⟩ := List.mem_map.mp hb
    exact safeAttribute_of_isAllowed (ha a hm)
  have hm := SafeMarkup.enclosed hs hi .nil
  rwa [toList_renderElement, ← List.append_nil (_ ++ closing _)]

theorem bind_eq_ok_iff {ε α β : Type} {x : Except ε α} {f : α → Except ε β} {b : β} :
    x >>= f = .ok b ↔ ∃ a, x = .ok a ∧ f a = .ok b := by
  cases x <;> simp [bind, Except.bind]

theorem toOption_eq_some_iff {ε α : Type} {x : Except ε α} {a : α} :
    x.toOption = some a ↔ x = .ok a := by
  cases x <;> simp [Except.toOption]

namespace Context

variable {ctx : Context}

theorem isSafe_param (hp : ∀ v ∈ ctx.params, v.IsSafe d) (index : Nat) :
    (ctx.param index).IsSafe d := by
  refine forall_getElem?_getD (P := Value.IsSafe d) hp (.of_not_mem ?_) index
  simpa [Numeral.text] using Numeral.not_mem_digits (index + 1)

theorem isSafe_call (hr : ctx.registry = .empty) (ho : ctx.data.symbols.OpensNoTag) {name : String}
    {args : List Value} {v : Value} (ha : ∀ v ∈ args, v.IsSafe d)
    (h : ctx.call name args = .ok v) : v.IsSafe d := by
  have hn : ctx.registry.get? name = none := by
    simp [hr, Registry.get?, Registry.empty]
  rw [call, hn] at h
  cases hb : Builtin.ofName? name with
  | none =>
    rw [hb] at h
    cases h
  | some b =>
    rw [hb] at h
    cases h
    exact b.safe_apply ho ctx.language ha

theorem isSafe_emitAll {nodes : List Node} (ih : ∀ n ∈ nodes, ∀ v, ctx.emit n = .ok v → v.IsSafe d)
    {values : List Value} (h : ctx.emitAll nodes = .ok values) : ∀ v ∈ values, v.IsSafe d := by
  induction nodes generalizing values with
  | nil =>
    cases h
    simp
  | cons n nodes ihn =>
    obtain ⟨hn, ht⟩ := List.forall_mem_cons.mp ih
    rw [emitAll] at h
    obtain ⟨v, hv, h⟩ := bind_eq_ok_iff.mp h
    obtain ⟨vs, hvs, h⟩ := bind_eq_ok_iff.mp h
    cases h
    exact List.forall_mem_cons.mpr ⟨hn v hv, ihn ht hvs⟩

theorem isSafe_emit (hr : ctx.registry = .empty) (ho : ctx.data.symbols.OpensNoTag)
    (hp : ∀ v ∈ ctx.params, v.IsSafe d) {node : Node} (hn : Sanitized node) :
    ∀ v, ctx.emit node = .ok v → v.IsSafe d := by
  induction hn with
  | text h =>
    rintro v ⟨⟩
    exact .of_not_mem h
  | placeholder =>
    rintro v ⟨⟩
    exact isSafe_param hp _
  | seq _ ih =>
    intro v hv
    rw [emit] at hv
    obtain ⟨args, ha, hv⟩ := bind_eq_ok_iff.mp hv
    exact isSafe_call hr ho (isSafe_emitAll ih ha) hv
  | call _ ih =>
    intro v hv
    rw [emit] at hv
    obtain ⟨args, ha, hv⟩ := bind_eq_ok_iff.mp hv
    exact isSafe_call hr ho (isSafe_emitAll ih ha) hv
  | @pageLink target label _ _ iht ihl =>
    intro v hv
    cases label with
    | none =>
      rw [emit] at hv
      obtain ⟨t, ht, hv⟩ := bind_eq_ok_iff.mp hv
      exact isSafe_call hr ho (by simpa using iht t ht) hv
    | some label =>
      rw [emit] at hv
      obtain ⟨t, ht, hv⟩ := bind_eq_ok_iff.mp hv
      obtain ⟨l, hl, hv⟩ := bind_eq_ok_iff.mp hv
      exact isSafe_call hr ho (by simpa using ⟨iht t ht, ihl label rfl l hl⟩) hv
  | webLink _ _ iht ihl =>
    intro v hv
    rw [emit] at hv
    obtain ⟨t, ht, hv⟩ := bind_eq_ok_iff.mp hv
    obtain ⟨l, hl, hv⟩ := bind_eq_ok_iff.mp hv
    exact isSafe_call hr ho (by simpa using ⟨iht t ht, ihl l hl⟩) hv
  | element ha _ ih =>
    intro v hv
    rw [emit, if_pos ha] at hv
    obtain ⟨values, hvs, hv⟩ := bind_eq_ok_iff.mp hv
    cases hv
    exact Value.isSafe_string (safe_renderElement ha (safe_joinText (isSafe_emitAll ih hvs)))

/-- A message without operations of others is rendered as safe markup, in every language and
whatever its template, if its parameters are safe markup and no symbol of numbers has a `<`: each
`<` of it opens or closes a tag, and the tags are nested. -/
theorem render_safeMarkup (d : Decoder) {data : LanguageData} (ho : data.symbols.OpensNoTag)
    {links : Bool} {message : String} {params : List Value} {language : Language} {text : String}
    (hp : ∀ v ∈ params, SafeMarkup d v.toText.toList)
    (h : (Context.mk .empty params language data).render links message = .ok text) :
    SafeMarkup d text.toList ∧
      ∀ before after, text.toList = before ++ '<' :: after → StandsAtTag d after := by
  have hs : SafeMarkup d text.toList := by
    unfold render at h
    split at h
    · rename_i node hn
      rw [evaluate] at h
      cases he : (Context.mk .empty params language data).emit node with
      | error e =>
        rw [he] at h
        cases h
      | ok v =>
        rw [he] at h
        cases h
        exact isSafe_emit rfl ho hp (parse_sanitized hn) v he
    · cases h
  exact ⟨hs, fun _ _ ht => hs.eachAngle ht⟩

/-- In this form of a Finnish word the end of a tag is written twice, which opens none. -/
theorem render_safeMarkup_illative :
    let ctx : Context := ⟨.empty, [.string "<i>talo</i>"], ⟨"fi", []⟩, .excerpt⟩
    ctx.data.symbols.OpensNoTag ∧ (∀ v ∈ ctx.params, SafeMarkup .basic v.toText.toList) ∧
      ctx.render true "\\<<b class='x\x22'>\x7b\x7bgrammar:illative|$1\x7d\x7d</b>[a c]" =
        .ok "&lt;<b class=\x22x&quot;\x22><i>talo</i>>n</b><a href=\x22a\x22>c</a>" ∧
      SafeMarkup .basic
        "&lt;<b class=\x22x&quot;\x22><i>talo</i>>n</b><a href=\x22a\x22>c</a>".toList := by
  intro ctx
  have ho : ctx.data.symbols.OpensNoTag := LanguageData.opensNoTag_excerpt
  have hi : SafeMarkup .basic "<i>talo</i>".toList :=
    @SafeMarkup.enclosed .basic "i" [] "talo".toList [] (.element (by decide) (by simp))
      (.of_not_mem (by decide)) .nil
  have hp : ∀ v ∈ ctx.params, SafeMarkup .basic v.toText.toList := List.forall_mem_singleton.mpr hi
  have h : ctx.render true "\\<<b class='x\x22'>\x7b\x7bgrammar:illative|$1\x7d\x7d</b>[a c]" =
      .ok "&lt;<b class=\x22x&quot;\x22><i>talo</i>>n</b><a href=\x22a\x22>c</a>" :=
    toOption_eq_some_iff.mp (by decide +kernel)
  exact ⟨ho, hp, h, (render_safeMarkup .basic ho hp h).1⟩

end Context
end WikiMessage
