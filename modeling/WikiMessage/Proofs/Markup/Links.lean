import WikiMessage.Proofs.Evaluation.Outcome

/-!
# Links do not nest

A node is read in a scope that knows whether it stands inside a link, and every scope that is made
of such a scope knows it too. So no link is produced there, however deep the node stands and
whatever becomes of the constructs around it.
-/

namespace WikiMessage.Markup

namespace Node

def isLink : Node → Bool
  | pageLink _ _ | webLink _ _ => true
  | _ => false

variable {P : Node → Prop} {nodes : List Node}

theorem forall_visits_mergeTexts (ht : ∀ content, P (text content))
    (h : ∀ n ∈ nodes, ∀ m ∈ n.visits, P m) : ∀ n ∈ mergeTexts nodes, ∀ m ∈ n.visits, P m :=
  forall_mem_mergeTexts (fun a b _ _ => forall_mem_visits (ht (a ++ b)) (by simp [parts])) h

theorem forall_visits_concat_of (ht : ∀ content, P (text content)) (hs : P (concat nodes))
    (h : ∀ n ∈ nodes, ∀ m ∈ n.visits, P m) : ∀ m ∈ (concat nodes).visits, P m :=
  forall_mem_visits hs (forall_visits_mergeTexts ht h)

theorem forall_visits_concat (ht : ∀ content, P (text content))
    (hs : ∀ children, P (seq children)) (h : ∀ n ∈ nodes, ∀ m ∈ n.visits, P m) :
    ∀ m ∈ (concat nodes).visits, P m :=
  forall_visits_concat_of ht (hs _) h

/-- An argument is the merged sequence, unless it is a single node or none. -/
theorem forall_visits_collapse_of (ht : ∀ content, P (text content)) (hs : P (concat nodes))
    (h : ∀ n ∈ nodes, ∀ m ∈ n.visits, P m) : ∀ m ∈ (collapse nodes).visits, P m := by
  have hm := forall_visits_mergeTexts ht h
  unfold collapse
  split
  · exact forall_mem_visits (ht _) (by simp [parts])
  · rename_i he
    exact hm _ (by rw [he]; exact List.mem_singleton_self _)
  · exact forall_mem_visits hs hm

/-- What holds of all texts and sequences holds all over an argument if it does in its nodes. -/
theorem forall_visits_collapse (ht : ∀ content, P (text content))
    (hs : ∀ children, P (seq children)) (h : ∀ n ∈ nodes, ∀ m ∈ n.visits, P m) :
    ∀ m ∈ (collapse nodes).visits, P m :=
  forall_visits_collapse_of ht (hs _) h

end Node

open Node

variable {s : Scope} {node : Node}

/-- What holds of all texts and sequences, and of the nodes produced in scopes of a kind, holds at
any depth of such a node, if the scopes that are made of one of the kind are of it too. -/
theorem Produced.forall_visits {Q : Scope → Prop} {P : Node → Prop}
    (hq : ∀ s, Q s → Q s.argument ∧ Q s.target ∧ Q s.label ∧ Q s.element)
    (ht : ∀ content, P (.text content)) (hs : ∀ children, P (.seq children))
    (hp : ∀ {s node}, Q s → Produced s node → P node) (h : Produced s node) (hn : Q s) :
    ∀ n ∈ node.visits, P n := by
  induction h with
  | text h => exact forall_mem_visits (hp hn (.text h)) (by simp [parts])
  | placeholder h => exact forall_mem_visits (hp hn (.placeholder h)) (by simp [parts])
  | call h ih =>
    refine forall_mem_visits (hp hn (.call h)) fun part hpart => ?_
    obtain ⟨nodes, hl, rfl⟩ := List.mem_map.mp hpart
    exact forall_visits_collapse ht hs fun n hm => ih nodes hl n hm (hq _ hn).1
  | pageLink hl hk h ih =>
    have hi := forall_visits_collapse ht hs fun n hm => ih n hm (hq _ hn).2.1
    exact forall_mem_visits (hp hn (.pageLink hl hk h)) (by simpa [parts] using hi)
  | labelledLink hl hk h hb ih ihb =>
    have hi := forall_visits_collapse ht hs fun n hm => ih n hm (hq _ hn).2.1
    have hib := forall_visits_collapse ht hs fun n hm => ihb n hm (hq _ hn).2.2.1
    exact forall_mem_visits (hp hn (.labelledLink hl hk h hb)) (by simpa [parts] using ⟨hi, hib⟩)
  | webLink hl hk h hb ih ihb =>
    have hi := forall_visits_collapse ht hs fun n hm => ih n hm (hq _ hn).2.1
    have hib := forall_visits_collapse ht hs fun n hm => ihb n hm (hq _ hn).2.2.1
    exact forall_mem_visits (hp hn (.webLink hl hk h hb)) (by simpa [parts] using ⟨hi, hib⟩)
  | element ha h ih =>
    exact forall_mem_visits (hp hn (.element ha h)) fun n hm => ih n hm (hq _ hn).2.2.2
  | abandoned _ ih => exact forall_visits_concat ht hs fun n hm => ih n hm (hq _ hn).2.2.2

/-- Inside a link, and where brackets make no links, no link is produced at any depth. -/
theorem Produced.not_isLink (h : Produced s node) (hs : s.links = false ∨ s.inLink = true) :
    ∀ n ∈ node.visits, n.isLink = false := by
  refine h.forall_visits (Q := fun s => s.links = false ∨ s.inLink = true) (fun s hs => ?_)
    (fun _ => rfl) (fun _ => rfl) (fun hs h => ?_) hs
  · exact ⟨hs, .inr rfl, .inr rfl, hs⟩
  · cases h with
    | pageLink hl hn _ => simp [hl, hn] at hs
    | labelledLink hl hn _ _ => simp [hl, hn] at hs
    | webLink hl hn _ _ => simp [hl, hn] at hs
    | _ => rfl

theorem not_isLink_collapse {nodes : List Node} (h : ∀ n ∈ nodes, Produced s n)
    (hs : s.inLink = true) : ∀ n ∈ (collapse nodes).visits, n.isLink = false :=
  forall_visits_collapse (fun _ => rfl) (fun _ => rfl) fun n hn => (h n hn).not_isLink (.inr hs)

/-- No link stands in a part of the node, if the node is a link. -/
def HoldsNoLink (node : Node) : Prop :=
  node.isLink = true → ∀ part ∈ node.parts, ∀ n ∈ part.visits, n.isLink = false

theorem holdsNoLink_of_not_isLink (h : node.isLink = false) : HoldsNoLink node := by
  intro hl
  rw [h] at hl
  cases hl

/-- No link that is produced has another one in its target or in its label. -/
theorem Produced.holdsNoLink (h : Produced s node) : HoldsNoLink node := by
  cases h with
  | pageLink _ _ hp => exact fun _ => by simpa [parts] using not_isLink_collapse hp rfl
  | labelledLink _ _ hp hb =>
    exact fun _ => by simpa [parts] using ⟨not_isLink_collapse hp rfl, not_isLink_collapse hb rfl⟩
  | webLink _ _ hp hb =>
    exact fun _ => by simpa [parts] using ⟨not_isLink_collapse hp rfl, not_isLink_collapse hb rfl⟩
  | _ => exact holdsNoLink_of_not_isLink rfl

/-- What holds of all texts and sequences, and of whatever is produced, holds all over the tree of a
message. -/
theorem forall_visits_of_parse {P : Node → Prop} (ht : ∀ content, P (.text content))
    (hs : ∀ children, P (.seq children)) (hp : ∀ {s node}, Produced s node → P node) {links : Bool}
    {message : String} {tree : Node} (h : parse links message = .ok tree) :
    ∀ n ∈ tree.visits, P n := by
  obtain ⟨nodes, rfl, hn⟩ := parse_produced h
  refine forall_visits_concat ht hs fun n hm => ?_
  exact (hn n hm).forall_visits (Q := fun _ => True) (by simp) ht hs (fun _ => hp) trivial

/-- In the tree of a message no link stands anywhere inside the target or the label of another one,
and if brackets make no links there is none at all. -/
theorem parse_links_apart {links : Bool} {message : String} {tree : Node}
    (h : parse links message = .ok tree) :
    (∀ link ∈ tree.visits, link.isLink = true →
      ∀ part ∈ link.parts, ∀ n ∈ part.visits, n.isLink = false) ∧
      (links = false → ∀ n ∈ tree.visits, n.isLink = false) := by
  constructor
  · exact forall_visits_of_parse (P := HoldsNoLink) (fun _ => holdsNoLink_of_not_isLink rfl)
      (fun _ => holdsNoLink_of_not_isLink rfl) (fun hp => hp.holdsNoLink) h
  · intro hl
    obtain ⟨nodes, rfl, hn⟩ := parse_produced h
    exact forall_visits_concat (fun _ => rfl) (fun _ => rfl) fun n hm =>
      (hn n hm).not_isLink (.inl hl)

/-- Brackets in an argument of a target and in an abandoned element of a label make no links. -/
theorem parse_links_apart_abandoned :
    ∃ tree, parse true "[[p\x7b\x7bn:[a b]\x7d\x7d|<b>[[q]] [c d]]]" = .ok tree ∧
      (tree.visits.filter isLink).length = 2 ∧
      ∀ link ∈ tree.visits, link.isLink = true →
        ∀ part ∈ link.parts, ∀ n ∈ part.visits, n.isLink = false := by
  have h : parse true "[[p\x7b\x7bn:[a b]\x7d\x7d|<b>[[q]] [c d]]]" =
      .ok (.seq [.pageLink (.seq [.text "p", .call "n" [.text "[a b]"]])
        (some (.seq [.text "&lt;b&gt;[[q"])), .text " ", .webLink (.text "c") (.text "d"),
        .text "]]"]) := by rfl
  exact ⟨_, h, rfl, (parse_links_apart h).1⟩

end WikiMessage.Markup
