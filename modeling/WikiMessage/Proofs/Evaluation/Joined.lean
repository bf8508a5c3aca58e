import WikiMessage.Proofs.Markup.Neighbours
import WikiMessage.Proofs.Markup.Ordinary

/-!
# Joined texts say the same

It does not matter from which end neighbouring texts are joined, nor whether it is done again. A
sequence evaluates to the same value with its texts joined, or fails with the same error, and an
argument shows the same text whether it is a sequence, a single node or nothing.
-/

namespace WikiMessage

open Markup Operation

namespace Markup.Node

variable {nodes : List Node} {node : Node}

/-- A node behind a list, joined to a text at the end of it. -/
def mergeOnto : List Node → Node → List Node
  | [], node => [node]
  | [text a], text b => [text (a ++ b)]
  | n :: nodes, node => n :: mergeOnto nodes node

/-- However much of a list is joined already, the whole of it is joined to the same. -/
theorem mergeTexts_mergeOnto_append (joined : List Node) (node : Node) (nodes : List Node) :
    mergeTexts (mergeOnto joined node ++ nodes) = mergeTexts (joined ++ node :: nodes) := by
  fun_induction mergeOnto joined node with
  | case1 node => rfl
  | case2 a b => exact mergeInto_text_append a b (mergeTexts nodes)
  | case3 n joined node _ ih => exact congrArg (mergeInto n) ih

theorem mergeTexts_foldl_mergeOnto (joined nodes : List Node) :
    mergeTexts (nodes.foldl mergeOnto joined) = mergeTexts (joined ++ nodes) := by
  induction nodes generalizing joined with
  | nil => simp
  | cons node nodes ih => rw [List.foldl_cons, ih, mergeTexts_mergeOnto_append]

theorem exists_mergeOnto_eq_cons (n : Node) (joined : List Node) (node : Node) :
    ∃ first tail, mergeOnto (n :: joined) node = first :: tail ∧ first.isText = n.isText := by
  unfold mergeOnto
  split
  next he => cases he
  next he =>
    cases he
    exact ⟨_, _, rfl, rfl⟩
  next he _ =>
    cases he
    exact ⟨_, _, rfl, rfl⟩

theorem apart_mergeOnto {joined : List Node} (h : Apart joined) : Apart (mergeOnto joined node) := by
  fun_induction mergeOnto joined node with
  | case1 node => exact .singleton _
  | case2 a b => exact .singleton _
  | case3 n joined node hn ih =>
    cases joined with
    | nil =>
      refine .cons_cons (fun ⟨ha, hb⟩ => ?_) (.singleton _)
      cases n with
      | text a =>
        cases node with
        | text b => exact hn a b rfl rfl rfl
        | _ => cases hb
      | _ => cases ha
    | cons m joined =>
      obtain ⟨first, tail, he, ht⟩ := exists_mergeOnto_eq_cons m joined node
      have hj := ih h.tail
      rw [he] at hj ⊢
      refine .cons_cons ?_ hj
      rw [ht]
      exact h.rel

theorem mergeInto_of_apart (h : Apart (node :: nodes)) : mergeInto node nodes = node :: nodes := by
  unfold mergeInto
  split
  · exact absurd ⟨rfl, rfl⟩ h.rel
  · rfl

/-- Where no text stands next to a text there is nothing to join. -/
theorem mergeTexts_of_apart (h : Apart nodes) : mergeTexts nodes = nodes := by
  induction nodes with
  | nil => rfl
  | cons node nodes ih => rw [mergeTexts_cons, ih h.tail, mergeInto_of_apart h]

theorem foldl_mergeOnto (nodes : List Node) : nodes.foldl mergeOnto [] = mergeTexts nodes := by
  have ha (joined : List Node) (h : Apart joined) : Apart (nodes.foldl mergeOnto joined) := by
    induction nodes generalizing joined with
    | nil => exact h
    | cons node nodes ih => exact ih _ (apart_mergeOnto h)
  rw [← mergeTexts_of_apart (ha [] .nil), mergeTexts_foldl_mergeOnto, List.nil_append]

end Markup.Node

namespace Context

variable {ctx : Context}

theorem emit_concat (hr : ctx.registry.get? Builtin.concat.name = none) (nodes : List Node) :
    ctx.emit (.concat nodes) = ctx.emit (.seq nodes) := by
  have hs (nodes : List Node) : ctx.emit (.seq nodes) =
      ((ctx.emitAll nodes).map Value.joinText).map Value.string := by
    rw [emit_seq hr]
    cases ctx.emitAll nodes <;> rfl
  rw [Node.concat, hs, hs, map_joinText_emitAll_mergeTexts]

theorem evaluate_collapse (hr : ctx.registry.get? Builtin.concat.name = none)
    (nodes : List Node) : ctx.evaluate (.collapse nodes) = ctx.evaluate (.seq nodes) := by
  rw [evaluate_seq hr, ← map_joinText_emitAll_mergeTexts]
  unfold Node.collapse
  generalize Node.mergeTexts nodes = merged
  split
  · rfl
  · exact (map_joinText_emitAll_singleton ctx _).symm
  · exact evaluate_seq hr _

/-- Joining neighbouring texts changes neither the value of a sequence nor its error, and an argument
made of the nodes shows the same text or fails in the same way. Joined texts stand apart, so that
joining them again does nothing, and joining them from the left gives the same list. -/
theorem evaluate_joined (hr : ctx.registry.get? Builtin.concat.name = none) (nodes : List Node) :
    ctx.emit (.concat nodes) = ctx.emit (.seq nodes) ∧
      ctx.evaluate (.collapse nodes) = ctx.evaluate (.seq nodes) ∧
      Node.Apart (Node.mergeTexts nodes) ∧
      Node.mergeTexts (Node.mergeTexts nodes) = Node.mergeTexts nodes ∧
      nodes.foldl Node.mergeOnto [] = Node.mergeTexts nodes := by
  have ha := Node.apart_mergeTexts nodes
  exact ⟨emit_concat hr nodes, evaluate_collapse hr nodes, ha, Node.mergeTexts_of_apart ha,
    Node.foldl_mergeOnto nodes⟩

/-- A number between texts, where an operation of another name is registered. -/
theorem evaluate_joined_number : ∃ ctx : Context, ctx.registry.contains "shout" = true ∧
    ctx.registry.get? Builtin.concat.name = none ∧
    ctx.emit (.seq [.text "ab", .placeholder 0, .text "c"]) =
      ctx.emit (.seq [.text "a", .text "b", .placeholder 0, .text "", .text "c"]) ∧
    ctx.evaluate (.placeholder 0) = ctx.evaluate (.seq [.placeholder 0]) := by
  have hn : Text.lower "shout" ≠ Text.lower Builtin.concat.name := by decide +kernel
  have hr : (Registry.empty.insert "shout" fun _ _ => .empty).get? Builtin.concat.name = none := by
    rw [Registry.get?_insert, if_neg hn]
    rfl
  have hc : (Registry.empty.insert "shout" fun _ _ => .empty).contains "shout" = true := by
    rw [Registry.contains, Registry.get?_insert, if_pos rfl]
    rfl
  refine ⟨⟨_, [.number 3], ⟨"en", []⟩, .excerpt⟩, hc, hr, ?_, ?_⟩
  · exact (evaluate_joined hr [.text "a", .text "b", .placeholder 0, .text "", .text "c"]).1
  · exact (evaluate_joined hr [.placeholder 0]).2.1

end Context
end WikiMessage
