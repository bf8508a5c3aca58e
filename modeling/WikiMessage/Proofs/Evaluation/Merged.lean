import WikiMessage.Proofs.Evaluation.Outcome

/-!
# The text of merged nodes

A sequence shows the texts of its nodes one after another, and so do the children of an element. So
they show the same when neighbouring texts are joined.
-/

namespace WikiMessage.Context

open Markup Operation

theorem map_joinText_emitAll_cons (ctx : Context) (node : Node) (nodes : List Node) :
    (ctx.emitAll (node :: nodes)).map Value.joinText =
      (ctx.emit node).bind fun v =>
        ((ctx.emitAll nodes).map Value.joinText).map fun text => v.toText ++ text := by
  rw [emitAll]
  cases ctx.emit node with
  | error e => rfl
  | ok v =>
    cases ctx.emitAll nodes with
    | error e => rfl
    | ok vs => simp [bind, Except.bind, Except.map, Value.joinText, String.join_cons]

theorem map_joinText_emitAll_singleton (ctx : Context) (node : Node) :
    (ctx.emitAll [node]).map Value.joinText = ctx.evaluate node := by
  rw [map_joinText_emitAll_cons, evaluate]
  cases ctx.emit node with
  | error e => rfl
  | ok v => simp [emitAll, Except.bind, Except.map, Value.joinText]

theorem map_joinText_emitAll_text (ctx : Context) (content : String) (nodes : List Node) :
    (ctx.emitAll (.text content :: nodes)).map Value.joinText =
      ((ctx.emitAll nodes).map Value.joinText).map fun text => content ++ text :=
  map_joinText_emitAll_cons ctx (.text content) nodes

theorem map_joinText_emitAll_append (ctx : Context) (nodes nodes' : List Node) :
    (ctx.emitAll (nodes ++ nodes')).map Value.joinText =
      ((ctx.emitAll nodes).map Value.joinText).bind fun text =>
        ((ctx.emitAll nodes').map Value.joinText).map fun text' => text ++ text' := by
  induction nodes with
  | nil =>
    rw [List.nil_append]
    cases ctx.emitAll nodes' <;> simp [emitAll, Except.bind, Except.map, Value.joinText]
  | cons node nodes ih =>
    rw [List.cons_append, map_joinText_emitAll_cons, map_joinText_emitAll_cons, ih]
    cases ctx.emit node with
    | error e => rfl
    | ok v =>
      cases (ctx.emitAll nodes).map Value.joinText with
      | error e => rfl
      | ok text =>
        cases (ctx.emitAll nodes').map Value.joinText with
        | error e => rfl
        | ok text' => simp [Except.bind, Except.map, String.append_assoc]

/-- Nodes show the same text when neighbouring texts are joined. -/
theorem map_joinText_emitAll_mergeTexts (ctx : Context) (nodes : List Node) :
    (ctx.emitAll (Node.mergeTexts nodes)).map Value.joinText =
      (ctx.emitAll nodes).map Value.joinText := by
  induction nodes with
  | nil => rfl
  | cons node nodes ih =>
    rw [Node.mergeTexts_cons, map_joinText_emitAll_cons ctx node nodes, ← ih]
    unfold Node.mergeInto
    split
    · rename_i a b rest he
      rw [he, map_joinText_emitAll_text, map_joinText_emitAll_text]
      cases (ctx.emitAll rest).map Value.joinText with
      | error e => rfl
      | ok text => simp [emit, Except.bind, Except.map, String.append_assoc]
    · exact map_joinText_emitAll_cons ctx _ _

theorem evaluate_seq {ctx : Context} (hr : ctx.registry.get? Builtin.concat.name = none)
    (nodes : List Node) : ctx.evaluate (.seq nodes) = (ctx.emitAll nodes).map Value.joinText := by
  rw [evaluate, emit_seq hr]
  cases ctx.emitAll nodes <;> rfl

/-- An element shows its children as a sequence of them does. -/
theorem emit_element (ctx : Context) (tag : String) (attributes : List Attribute)
    (children : List Node) :
    ctx.emit (.element tag attributes children) =
      if isAllowedElement tag attributes then
        ((ctx.emitAll children).map Value.joinText).map fun text =>
          .string (renderElement tag attributes text)
      else .error (.elementNotAllowed tag) := by
  rw [emit]
  cases ctx.emitAll children <;> rfl

end WikiMessage.Context
