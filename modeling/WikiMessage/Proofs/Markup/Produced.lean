import WikiMessage.Proofs.Markup.Constructs

/-!
# The trees of messages

What an expression can be, by the scope in which it was read. Each constructor is one way in which
the grammar makes a node; a fact about all parsed trees is an induction over these constructors.
-/

namespace WikiMessage.Markup

open WikiMessage.Text Rule

/-- The nodes that expressions in a scope may be read as. -/
inductive Produced : Scope → Node → Prop
  | text {s : Scope} {content : String} (h : '<' ∉ content.toList) : Produced s (.text content)
  | placeholder {s : Scope} {index : Nat} (h : index + 1 < Numeral.unsignedBound) :
      Produced s (.placeholder index)
  | call {s : Scope} {name : String} {args : List (List Node)}
      (h : ∀ nodes ∈ args, ∀ n ∈ nodes, Produced s.argument n) :
      Produced s (.call name (args.map .collapse))
  | pageLink {s : Scope} {target : List Node} (hl : s.links = true) (hn : s.inLink = false)
      (ht : ∀ n ∈ target, Produced s.target n) : Produced s (.pageLink (.collapse target) none)
  | labelledLink {s : Scope} {target label : List Node} (hl : s.links = true)
      (hn : s.inLink = false) (ht : ∀ n ∈ target, Produced s.target n)
      (hb : ∀ n ∈ label, Produced s.label n) :
      Produced s (.pageLink (.collapse target) (some (.collapse label)))
  | webLink {s : Scope} {target label : List Node} (hl : s.links = true) (hn : s.inLink = false)
      (ht : ∀ n ∈ target, Produced s.target n) (hb : ∀ n ∈ label, Produced s.label n) :
      Produced s (.webLink (.collapse target) (.collapse label))
  | element {s : Scope} {tag : String} {attributes : List Attribute} {children : List Node}
      (ha : isAllowedElement tag attributes = true) (hc : ∀ n ∈ children, Produced s.element n) :
      Produced s (.element tag attributes children)
  /-- An element that is not passed on: its tags are texts among its children. -/
  | abandoned {s : Scope} {nodes : List Node} (h : ∀ n ∈ nodes, Produced s.element n) :
      Produced s (.concat nodes)

theorem lt_not_mem_textChar (c : Char) : '<' ∉ textChar c := by
  unfold textChar
  split
  · decide
  · rename_i h
    simpa using Ne.symm h

theorem produced_of_textRun {plain : Char → Bool} {s : Scope} {cs rest : List Char} {node : Node}
    (h : textRun plain cs = some (node, rest)) : Produced s node := by
  obtain ⟨content, rfl, hc⟩ := exists_content_of_textRun h
  refine .text fun hm => ?_
  obtain ⟨d, -, hd⟩ := hc _ hm
  exact lt_not_mem_textChar d hd

theorem produced_of_stray {s : Scope} {cs rest : List Char} {node : Node}
    (h : stray s cs = some (node, rest)) : Produced s node := by
  obtain ⟨c, -, -, rfl⟩ := stray_eq_some_iff.mp h
  exact .text (by simpa using lt_not_mem_textChar c)

theorem produced_escapedTag (s : Scope) (tag : List Char) : Produced s (escapedTag tag) :=
  .text (by simpa using not_mem_escapeChars (.inl rfl) tag)

theorem produced_of_placeholder {s : Scope} {cs rest : List Char} {node : Node}
    (h : placeholder cs = some (node, rest)) : Produced s node := by
  obtain ⟨ds, n, rfl, -, -, -, -, hb⟩ := placeholder_eq_some_iff.mp h
  exact .placeholder hb

section

variable {inner : Scope → Rule Node} {s : Scope} {cs rest : List Char} {node : Node}

/-- The rule for inner expressions produces nodes of its scope. -/
def InnerProduces (inner : Scope → Rule Node) : Prop :=
  ∀ ⦃s cs node rest⦄, inner s cs = some (node, rest) → Produced s node

/-- Each argument is what one run of expressions collapses to. -/
theorem exists_runs_of_arguments {rule : Rule Node} (ha : Advances rule) {args : List Node}
    (h : arguments rule cs = (args, rest)) :
    ∃ lists : List (List Node), args = lists.map .collapse ∧
      ∀ nodes ∈ lists, ∃ start left, Run rule start nodes left := by
  have hone {mark : Char} {cs rest : List Char} {a : Node}
      (h : argumentAfter mark rule cs = some (a, rest)) :
      ∃ nodes, a = .collapse nodes ∧ ∃ start left, Run rule start nodes left := by
    obtain ⟨nodes, start, rfl, -, hr⟩ := (argumentAfter_eq_some_iff ha).mp h
    exact ⟨nodes, rfl, start, _, hr⟩
  have hmany {cs rest : List Char} {as : List Node} (h : Run (argumentAfter '|' rule) cs as rest) :
      ∃ lists : List (List Node), as = lists.map .collapse ∧
        ∀ nodes ∈ lists, ∃ start left, Run rule start nodes left := by
    induction h with
    | stop _ => exact ⟨[], rfl, by simp⟩
    | step h tail ih =>
      obtain ⟨nodes, rfl, hn⟩ := hone h
      obtain ⟨lists, rfl, hl⟩ := ih
      exact ⟨nodes :: lists, rfl, List.forall_mem_cons.mpr ⟨hn, hl⟩⟩
  rcases (arguments_eq_iff ha).mp h with ⟨first, more, mid, rfl, hf, hr⟩ | ⟨-, hr⟩
  · obtain ⟨nodes, rfl, hn⟩ := hone hf
    obtain ⟨lists, rfl, hl⟩ := hmany hr
    exact ⟨nodes :: lists, rfl, List.forall_mem_cons.mpr ⟨hn, hl⟩⟩
  · exact hmany hr

theorem arguments_produced (hi : InnerAdvances inner) (hp : InnerProduces inner) {args : List Node}
    (h : arguments (inner s) cs = (args, rest)) :
    ∃ lists : List (List Node), args = lists.map .collapse ∧
      ∀ nodes ∈ lists, ∀ n ∈ nodes, Produced s n := by
  obtain ⟨lists, rfl, hl⟩ := exists_runs_of_arguments (hi s) h
  refine ⟨lists, rfl, fun nodes hm => ?_⟩
  obtain ⟨start, left, hr⟩ := hl nodes hm
  exact hr.forall_mem fun _ _ _ he => hp he

theorem call_produced (hi : InnerAdvances inner) (hp : InnerProduces inner)
    (h : call inner s cs = some (node, rest)) : Produced s node := by
  obtain ⟨name, mid, args, rfl, -, -, -, -, ha⟩ := call_eq_some_iff.mp h
  obtain ⟨lists, rfl, hl⟩ := arguments_produced hi hp ha
  exact .call hl

theorem pageTarget_produced (hi : InnerAdvances inner) (hp : InnerProduces inner)
    (h : pageTarget inner s cs = some (node, rest)) : Produced s node := by
  rcases pageTarget_cases h with h | h | h
  · exact call_produced hi hp h
  · exact produced_of_placeholder h
  · exact produced_of_textRun h

theorem webTarget_produced (hi : InnerAdvances inner) (hp : InnerProduces inner)
    (h : webTarget inner s cs = some (node, rest)) : Produced s node := by
  rcases webTarget_cases h with h | h | h
  · exact call_produced hi hp h
  · exact produced_of_placeholder h
  · exact produced_of_textRun h

theorem pageLink_produced (hi : InnerAdvances inner) (hp : InnerProduces inner)
    (h : pageLink inner s cs = some (node, rest)) : Produced s node := by
  obtain ⟨start, target, mid, label, rfl, hl, hn, -, -, hr, hb⟩ := (pageLink_eq_some_iff hi).mp h
  have ht := hr.forall_mem fun _ _ _ he => pageTarget_produced hi hp he
  rcases (pageLabel_eq_some_iff (hi s.label)).mp hb with ⟨nodes, _, rfl, -, -, hr'⟩ | ⟨rfl, -, -⟩
  · exact .labelledLink hl hn ht (hr'.forall_mem fun _ _ _ he => hp he)
  · exact .pageLink hl hn ht

theorem webLink_produced (hi : InnerAdvances inner) (hp : InnerProduces inner)
    (h : webLink inner s cs = some (node, rest)) : Produced s node := by
  obtain ⟨start, target, mid, left, label, rfl, hl, hn, -, -, hr, -, -, hr'⟩ :=
    (webLink_eq_some_iff hi).mp h
  exact .webLink hl hn (hr.forall_mem fun _ _ _ he => webTarget_produced hi hp he)
    (hr'.forall_mem fun _ _ _ he => hp he)

theorem element_produced (hi : InnerAdvances inner) (hp : InnerProduces inner)
    (h : element inner s cs = some (node, rest)) : Produced s node := by
  obtain ⟨o, start, children, left, -, hr, h⟩ := (element_eq_some_iff hi).mp h
  have hc : ∀ n ∈ children, Produced s.element n := hr.forall_mem fun _ _ _ he => hp he
  have hopen := List.forall_mem_cons.mpr ⟨produced_escapedTag s.element (taken cs start), hc⟩
  rcases h with ⟨-, -, rfl⟩ | ⟨name, -, ⟨-, ha, rfl⟩ | ⟨-, rfl⟩⟩
  · exact .abandoned hopen
  · exact .element ha hc
  · refine .abandoned (List.forall_mem_append.mpr ⟨hopen, ?_⟩)
    exact List.forall_mem_singleton.mpr (produced_escapedTag s.element _)

theorem construct_produced (hi : InnerAdvances inner) (hp : InnerProduces inner)
    (h : construct inner s cs = some (node, rest)) : Produced s node := by
  rcases construct_cases h with h | h | h | h | h | h | h
  · exact call_produced hi hp h
  · exact produced_of_placeholder h
  · exact pageLink_produced hi hp h
  · exact webLink_produced hi hp h
  · exact element_produced hi hp h
  · exact produced_of_textRun h
  · exact produced_of_stray h

end

theorem expression_produced (depth : Nat) : InnerProduces (expression depth) := by
  induction depth with
  | zero =>
    intro s cs node rest h
    cases h
  | succ depth ih =>
    exact fun s cs node rest h => construct_produced (advances_expression depth) ih h

/-- A message is a sequence of nodes that are produced at the top. -/
theorem parse_produced {links : Bool} {message : String} {tree : Node}
    (h : parse links message = .ok tree) :
    ∃ nodes, tree = .concat nodes ∧ ∀ n ∈ nodes, Produced (Scope.top links) n := by
  obtain ⟨nodes, rfl, hr⟩ := parse_eq_ok_iff.mp h
  exact ⟨nodes, rfl, hr.forall_mem fun _ _ _ he => expression_produced _ he⟩

end WikiMessage.Markup
