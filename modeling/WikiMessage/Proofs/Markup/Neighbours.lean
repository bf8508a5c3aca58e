import Mathlib.Data.List.Chain
import WikiMessage.Proofs.Markup.Links

/-!
# Neighbouring texts

Sequences are merged wherever they are made, so no text of a sequence stands next to another one.
The children of an element stay as they were read. A run of text ends where no more text can be
read, so of two texts next to each other there one is a sigil that began no construct.
-/

namespace WikiMessage.Markup

open WikiMessage.Text Rule

namespace Node

def isText : Node → Bool
  | text _ => true
  | _ => false

def sigils : List Char := ['$', '[', ']', '{', '}', '<']

/-- A text as a sigil gives it where it begins no construct. -/
def isSigil : Node → Bool
  | text content => sigils.any fun c => content = String.ofList (textChar c)
  | _ => false

/-- No text stands next to a text. -/
def Apart (nodes : List Node) : Prop := nodes.IsChain fun n m => ¬(n.isText ∧ m.isText)

/-- No text stands next to a text unless one of them is a sigil. -/
def ApartButSigils (nodes : List Node) : Prop :=
  nodes.IsChain fun n m => n.isText → m.isText → n.isSigil ∨ m.isSigil

variable {nodes : List Node} {node : Node}

theorem apart_mergeInto (h : Apart nodes) : Apart (mergeInto node nodes) := by
  unfold mergeInto
  split
  · rename_i a b rest
    cases rest with
    | nil => exact .singleton _
    | cons next rest =>
      -- what stood next to the second text stands next to the joined one
      obtain ⟨hb, ht⟩ := List.isChain_cons_cons.mp h
      exact .cons_cons hb ht
  · rename_i hn
    cases nodes with
    | nil => exact .singleton _
    | cons next rest =>
      refine .cons_cons (fun ⟨ha, hb⟩ => ?_) h
      cases node with
      | text a =>
        cases next with
        | text b => exact hn a b rest rfl rfl
        | _ => cases hb
      | _ => cases ha

theorem apart_mergeTexts (nodes : List Node) : Apart (mergeTexts nodes) := by
  induction nodes with
  | nil => exact .nil
  | cons node nodes ih => exact apart_mergeInto ih

/-- What holds of the children of sequences and of elements in the tree of a message. -/
def IsJoined : Node → Prop
  | seq children => Apart children
  | element _ _ children => ApartButSigils children
  | _ => True

theorem isJoined_text (content : String) : IsJoined (text content) := trivial

theorem isJoined_concat (nodes : List Node) : IsJoined (concat nodes) := apart_mergeTexts nodes

end Node

open Node

variable {inner : Scope → Rule Node} {s : Scope} {cs rest : List Char} {node : Node}

theorem mem_sigils_of_isStray {c : Char} (h : isStray s (c :: cs) = true) : c ∈ sigils := by
  unfold isStray at h
  split at h <;> simp_all [sigils]

theorem isSigil_of_stray (h : stray s cs = some (node, rest)) : node.isSigil = true := by
  obtain ⟨c, -, hs, rfl⟩ := stray_eq_some_iff.mp h
  exact List.any_eq_true.mpr ⟨c, mem_sigils_of_isStray hs, decide_eq_true rfl⟩

/-- A text is read as a run of text or as a stray sigil. -/
theorem textRun_or_stray (hi : InnerAdvances inner) (h : construct inner s cs = some (node, rest))
    (ht : node.isText = true) :
    textRun s.isPlain cs = some (node, rest) ∨ stray s cs = some (node, rest) := by
  rcases construct_cases h with h | h | h | h | h | h | h
  · obtain ⟨name, mid, args, rfl, -⟩ := call_eq_some_iff.mp h
    cases ht
  · obtain ⟨ds, n, rfl, -⟩ := placeholder_eq_some_iff.mp h
    cases ht
  · obtain ⟨start, target, mid, label, rfl, -⟩ := (pageLink_eq_some_iff hi).mp h
    cases ht
  · obtain ⟨start, target, mid, left, label, rfl, -⟩ := (webLink_eq_some_iff hi).mp h
    cases ht
  · obtain ⟨o, start, children, left, -, -, h⟩ := (element_eq_some_iff hi).mp h
    rcases h with ⟨-, -, rfl⟩ | ⟨name, -, ⟨-, -, rfl⟩ | ⟨-, rfl⟩⟩ <;> cases ht
  · exact .inl h
  · exact .inr h

/-- Where a run of text ends no other one begins. -/
theorem textRun_eq_none_of_textRun {plain : Char → Bool}
    (h : textRun plain cs = some (node, rest)) : textRun plain rest = none := by
  obtain ⟨pieces, -, -, hr⟩ := textRun_eq_some_iff.mp h
  exact textRun_eq_none_iff.mpr hr.fails

theorem isSigil_or_isSigil (hi : InnerAdvances inner) {mid : List Char} {next : Node}
    (h : construct inner s cs = some (node, mid)) (h' : construct inner s mid = some (next, rest))
    (hn : node.isText = true) (hm : next.isText = true) :
    node.isSigil = true ∨ next.isSigil = true := by
  rcases textRun_or_stray hi h hn with h | h
  · rcases textRun_or_stray hi h' hm with h' | h'
    · -- the first run would have gone on
      rw [textRun_eq_none_of_textRun h] at h'
      cases h'
    · exact .inr (isSigil_of_stray h')
  · exact .inl (isSigil_of_stray h)

theorem apartButSigils_of_run (hi : InnerAdvances inner) {nodes : List Node}
    (h : Run (construct inner s) cs nodes rest) : ApartButSigils nodes := by
  induction h with
  | stop _ => exact .nil
  | step h tail ih =>
    cases tail with
    | stop _ => exact .singleton _
    | step h' _ => exact .cons_cons (isSigil_or_isSigil hi h h') ih

/-- In all that the rule for inner expressions yields, and in its runs, texts are joined. -/
structure InnerJoins (inner : Scope → Rule Node) : Prop where
  isJoined : ∀ ⦃s cs node rest⦄, inner s cs = some (node, rest) → ∀ n ∈ node.visits, n.IsJoined
  apart : ∀ ⦃s cs nodes rest⦄, Run (inner s) cs nodes rest → ApartButSigils nodes

theorem isJoined_of_textRun {plain : Char → Bool} (h : textRun plain cs = some (node, rest)) :
    ∀ n ∈ node.visits, n.IsJoined := by
  obtain ⟨content, rfl, -⟩ := exists_content_of_textRun h
  exact forall_mem_visits trivial (by simp [parts])

theorem isJoined_of_placeholder (h : placeholder cs = some (node, rest)) :
    ∀ n ∈ node.visits, n.IsJoined := by
  obtain ⟨ds, n, rfl, -⟩ := placeholder_eq_some_iff.mp h
  exact forall_mem_visits trivial (by simp [parts])

theorem isJoined_of_stray (h : stray s cs = some (node, rest)) : ∀ n ∈ node.visits, n.IsJoined := by
  obtain ⟨c, -, -, rfl⟩ := stray_eq_some_iff.mp h
  exact forall_mem_visits trivial (by simp [parts])

theorem isJoined_collapse_of_run {rule : Rule Node} {nodes : List Node}
    (hp : ∀ ⦃cs node rest⦄, rule cs = some (node, rest) → ∀ n ∈ node.visits, n.IsJoined)
    (h : Run rule cs nodes rest) : ∀ n ∈ (collapse nodes).visits, n.IsJoined :=
  forall_visits_collapse_of isJoined_text (isJoined_concat nodes)
    (h.forall_mem fun _ _ _ he => hp he)

theorem call_isJoined (hi : InnerAdvances inner) (hp : InnerJoins inner)
    (h : call inner s cs = some (node, rest)) : ∀ n ∈ node.visits, n.IsJoined := by
  obtain ⟨name, mid, args, rfl, -, -, -, -, ha⟩ := call_eq_some_iff.mp h
  obtain ⟨lists, rfl, hl⟩ := exists_runs_of_arguments (hi _) ha
  refine forall_mem_visits trivial fun part hm => ?_
  obtain ⟨nodes, hn, rfl⟩ := List.mem_map.mp hm
  obtain ⟨start, left, hr⟩ := hl nodes hn
  exact isJoined_collapse_of_run (fun _ _ _ he => hp.isJoined he) hr

theorem pageTarget_isJoined (hi : InnerAdvances inner) (hp : InnerJoins inner)
    (h : pageTarget inner s cs = some (node, rest)) : ∀ n ∈ node.visits, n.IsJoined := by
  rcases pageTarget_cases h with h | h | h
  · exact call_isJoined hi hp h
  · exact isJoined_of_placeholder h
  · exact isJoined_of_textRun h

theorem webTarget_isJoined (hi : InnerAdvances inner) (hp : InnerJoins inner)
    (h : webTarget inner s cs = some (node, rest)) : ∀ n ∈ node.visits, n.IsJoined := by
  rcases webTarget_cases h with h | h | h
  · exact call_isJoined hi hp h
  · exact isJoined_of_placeholder h
  · exact isJoined_of_textRun h

theorem pageLink_isJoined (hi : InnerAdvances inner) (hp : InnerJoins inner)
    (h : pageLink inner s cs = some (node, rest)) : ∀ n ∈ node.visits, n.IsJoined := by
  obtain ⟨start, target, mid, label, rfl, -, -, -, -, hr, hb⟩ := (pageLink_eq_some_iff hi).mp h
  have ht := isJoined_collapse_of_run (fun _ _ _ he => pageTarget_isJoined hi hp he) hr
  rcases (pageLabel_eq_some_iff (hi s.label)).mp hb with ⟨nodes, _, rfl, -, -, hr'⟩ | ⟨rfl, -, -⟩
  · have hl := isJoined_collapse_of_run (fun _ _ _ he => hp.isJoined he) hr'
    exact forall_mem_visits trivial (by simpa [parts] using ⟨ht, hl⟩)
  · exact forall_mem_visits trivial (by simpa [parts] using ht)

theorem webLink_isJoined (hi : InnerAdvances inner) (hp : InnerJoins inner)
    (h : webLink inner s cs = some (node, rest)) : ∀ n ∈ node.visits, n.IsJoined := by
  obtain ⟨start, target, mid, left, label, rfl, -, -, -, -, hr, -, -, hr'⟩ :=
    (webLink_eq_some_iff hi).mp h
  have ht := isJoined_collapse_of_run (fun _ _ _ he => webTarget_isJoined hi hp he) hr
  have hl := isJoined_collapse_of_run (fun _ _ _ he => hp.isJoined he) hr'
  exact forall_mem_visits trivial (by simpa [parts] using ⟨ht, hl⟩)

theorem element_isJoined (hi : InnerAdvances inner) (hp : InnerJoins inner)
    (h : element inner s cs = some (node, rest)) : ∀ n ∈ node.visits, n.IsJoined := by
  obtain ⟨o, start, children, left, -, hr, h⟩ := (element_eq_some_iff hi).mp h
  have hc : ∀ child ∈ children, ∀ n ∈ child.visits, n.IsJoined :=
    hr.forall_mem fun _ _ _ he => hp.isJoined he
  have htag (tag : List Char) : ∀ n ∈ (escapedTag tag).visits, n.IsJoined :=
    forall_mem_visits trivial (by simp [parts, escapedTag])
  have hopen := List.forall_mem_cons.mpr ⟨htag (taken cs start), hc⟩
  rcases h with ⟨-, -, rfl⟩ | ⟨name, -, ⟨-, -, rfl⟩ | ⟨-, rfl⟩⟩
  · exact forall_visits_concat_of isJoined_text (isJoined_concat _) hopen
  · exact forall_mem_visits (hp.apart hr) hc
  · refine forall_visits_concat_of isJoined_text (isJoined_concat _)
      (List.forall_mem_append.mpr ⟨hopen, ?_⟩)
    exact List.forall_mem_singleton.mpr (htag _)

theorem construct_isJoined (hi : InnerAdvances inner) (hp : InnerJoins inner)
    (h : construct inner s cs = some (node, rest)) : ∀ n ∈ node.visits, n.IsJoined := by
  rcases construct_cases h with h | h | h | h | h | h | h
  · exact call_isJoined hi hp h
  · exact isJoined_of_placeholder h
  · exact pageLink_isJoined hi hp h
  · exact webLink_isJoined hi hp h
  · exact element_isJoined hi hp h
  · exact isJoined_of_textRun h
  · exact isJoined_of_stray h

theorem innerJoins_expression (depth : Nat) : InnerJoins (expression depth) := by
  induction depth with
  | zero =>
    refine ⟨fun s cs node rest h => ?_, fun s cs nodes rest h => ?_⟩
    · cases h
    · cases h with
      | stop _ => exact .nil
      | step h _ => cases h
  | succ depth ih =>
    have hi := advances_expression depth
    exact ⟨fun s cs node rest h => construct_isJoined hi ih h,
      fun s cs nodes rest h => apartButSigils_of_run hi h⟩

/-- In the tree of a message no sequence has two texts next to each other, at any depth. Among the
children of an element there may be such texts, and then one of the two is a sigil. -/
theorem parse_texts_apart {links : Bool} {message : String} {tree : Node}
    (h : parse links message = .ok tree) :
    (∀ children, .seq children ∈ tree.visits → Apart children) ∧
      ∀ tag attributes children, .element tag attributes children ∈ tree.visits →
        ApartButSigils children := by
  obtain ⟨nodes, rfl, hr⟩ := parse_eq_ok_iff.mp h
  have hj : ∀ n ∈ (concat nodes).visits, n.IsJoined :=
    forall_visits_concat_of isJoined_text (isJoined_concat nodes)
      (hr.forall_mem fun _ _ _ he => (innerJoins_expression _).isJoined he)
  exact ⟨fun children hm => hj _ hm, fun tag attributes children hm => hj _ hm⟩

theorem parse_texts_apart_price :
    parse false "\x7b\x7blc:US$ or <b>US$ 5</b>\x7d\x7d" = .ok (.seq [.call "lc"
      [.seq [.text "US$ or ", .element "b" [] [.text "US", .text "$", .text " 5"]]]]) ∧
    Apart [.text "US$ or ", .element "b" [] [.text "US", .text "$", .text " 5"]] ∧
    ApartButSigils [.text "US", .text "$", .text " 5"] := by
  have h : parse false "\x7b\x7blc:US$ or <b>US$ 5</b>\x7d\x7d" = .ok (.seq [.call "lc"
      [.seq [.text "US$ or ", .element "b" [] [.text "US", .text "$", .text " 5"]]]]) := rfl
  obtain ⟨hs, he⟩ := parse_texts_apart h
  exact ⟨h, hs _ (by simp [visits, visitsAll]), he "b" [] _ (by simp [visits, visitsAll])⟩

/-- The texts among an element's children are not merged: a sigil has a text on either side. -/
theorem exists_element_texts_adjacent : ∃ tree children, parse false "<b>US$ 5</b>" = .ok tree ∧
    .element "b" [] children ∈ tree.visits ∧ ¬Apart children := by
  refine ⟨.seq [.element "b" [] [.text "US", .text "$", .text " 5"]],
    [.text "US", .text "$", .text " 5"], rfl, by simp [visits, visitsAll], fun h => ?_⟩
  exact (List.isChain_cons_cons.mp h).1 ⟨rfl, rfl⟩

end WikiMessage.Markup
