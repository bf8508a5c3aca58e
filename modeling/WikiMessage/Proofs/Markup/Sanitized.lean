import WikiMessage.Proofs.Markup.Produced

/-!
# Sanitized trees

A tree is sanitized if no text of it holds a `<` and all its elements are allowed. Every message is
read as such a tree, so that only the renderer can open a tag.
-/

namespace WikiMessage.Markup

/-- A fact about nodes that joining two texts keeps holds of merged nodes if it holds of all. -/
theorem Node.forall_mem_mergeTexts {P : Node → Prop}
    (hj : ∀ a b, P (.text a) → P (.text b) → P (.text (a ++ b))) {nodes : List Node}
    (h : ∀ n ∈ nodes, P n) : ∀ n ∈ mergeTexts nodes, P n := by
  induction nodes with
  | nil => simp
  | cons node nodes ih =>
    obtain ⟨hn, ht⟩ := List.forall_mem_cons.mp h
    rw [mergeTexts_cons]
    unfold mergeInto
    split
    · rename_i a b rest he
      obtain ⟨hb, hr⟩ := List.forall_mem_cons.mp (he ▸ ih ht)
      exact List.forall_mem_cons.mpr ⟨hj a b hn hb, hr⟩
    · exact List.forall_mem_cons.mpr ⟨hn, ih ht⟩

inductive Sanitized : Node → Prop
  | text {content : String} (h : '<' ∉ content.toList) : Sanitized (.text content)
  | seq {children : List Node} (h : ∀ n ∈ children, Sanitized n) : Sanitized (.seq children)
  | placeholder {index : Nat} : Sanitized (.placeholder index)
  | call {name : String} {args : List Node} (h : ∀ n ∈ args, Sanitized n) :
      Sanitized (.call name args)
  | pageLink {target : Node} {label : Option Node} (ht : Sanitized target)
      (hl : ∀ n ∈ label, Sanitized n) : Sanitized (.pageLink target label)
  | webLink {target label : Node} (ht : Sanitized target) (hl : Sanitized label) :
      Sanitized (.webLink target label)
  | element {tag : String} {attributes : List Attribute} {children : List Node}
      (ha : isAllowedElement tag attributes = true) (h : ∀ n ∈ children, Sanitized n) :
      Sanitized (.element tag attributes children)

theorem sanitized_mergeTexts {nodes : List Node} (h : ∀ n ∈ nodes, Sanitized n) :
    ∀ n ∈ Node.mergeTexts nodes, Sanitized n := by
  refine Node.forall_mem_mergeTexts (fun a b ha hb => ?_) h
  cases ha with
  | text ha =>
    cases hb with
    | text hb => exact .text (by simp [ha, hb])

theorem sanitized_concat {nodes : List Node} (h : ∀ n ∈ nodes, Sanitized n) :
    Sanitized (.concat nodes) := .seq (sanitized_mergeTexts h)

theorem sanitized_collapse {nodes : List Node} (h : ∀ n ∈ nodes, Sanitized n) :
    Sanitized (.collapse nodes) := by
  have hm := sanitized_mergeTexts h
  unfold Node.collapse
  split
  · exact .text (by decide)
  · rename_i he
    exact hm _ (by rw [he]; exact List.mem_singleton_self _)
  · exact .seq hm

theorem Produced.sanitized {s : Scope} {node : Node} (h : Produced s node) : Sanitized node := by
  induction h with
  | text h => exact .text h
  | placeholder _ => exact .placeholder
  | call _ ih =>
    refine .call fun n hn => ?_
    obtain ⟨nodes, hm, rfl⟩ := List.mem_map.mp hn
    exact sanitized_collapse (ih nodes hm)
  | pageLink _ _ _ iht => exact .pageLink (sanitized_collapse iht) (by simp)
  | labelledLink _ _ _ _ iht ihb =>
    refine .pageLink (sanitized_collapse iht) fun n hn => ?_
    obtain rfl := Option.some.inj hn
    exact sanitized_collapse ihb
  | webLink _ _ _ _ iht ihb => exact .webLink (sanitized_collapse iht) (sanitized_collapse ihb)
  | element ha _ ih => exact .element ha ih
  | abandoned _ ih => exact sanitized_concat ih

theorem parse_sanitized {links : Bool} {message : String} {tree : Node}
    (h : parse links message = .ok tree) : Sanitized tree := by
  obtain ⟨nodes, rfl, hn⟩ := parse_produced h
  exact sanitized_concat fun n hm => (hn n hm).sanitized

end WikiMessage.Markup
