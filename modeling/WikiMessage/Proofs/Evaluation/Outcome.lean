import WikiMessage.Evaluation
import WikiMessage.Proofs.Markup.Sanitized

/-!
# Whether a tree can be evaluated

Evaluation fails at the first node, in the order in which nodes are evaluated, that calls an unknown
operation or is an element that may not be shown. No parameter, no language and no value of an inner
node has a say in it: every operation gives some value for all arguments.
-/

namespace WikiMessage

open Markup Operation

/-- The error of a computation, if it fails. -/
def failure? {ε α : Type} : Except ε α → Option ε
  | .ok _ => none
  | .error e => some e

section

variable {ε α β : Type}

@[simp] theorem failure?_ok (a : α) : failure? (.ok a : Except ε α) = none := rfl

@[simp] theorem failure?_error (e : ε) : failure? (.error e : Except ε α) = some e := rfl

theorem failure?_eq_none_iff {x : Except ε α} : failure? x = none ↔ ∃ a, x = .ok a := by
  cases x <;> simp [failure?]

theorem failure?_eq_some_iff {x : Except ε α} {e : ε} : failure? x = some e ↔ x = .error e := by
  cases x <;> simp [failure?]

/-- A second step whose failure does not depend on what the first one gave. -/
theorem failure?_bind {x : Except ε α} {f : α → Except ε β} {r : Option ε}
    (h : ∀ a, failure? (f a) = r) : failure? (x >>= f) = (failure? x).or r := by
  cases x with
  | ok a => simpa [bind, Except.bind] using h a
  | error e => simp [bind, Except.bind]

@[simp] theorem failure?_map (f : α → β) (x : Except ε α) : failure? (x.map f) = failure? x := by
  cases x <;> rfl

end

namespace Markup.Node

mutual

/-- The nodes of a tree in the order in which they are evaluated: parts from left to right before
the operation on them, but an element before its children. -/
def visits : Node → List Node
  | text s => [text s]
  | placeholder index => [placeholder index]
  | seq children => visitsAll children ++ [seq children]
  | call name args => visitsAll args ++ [call name args]
  | pageLink target none => visits target ++ [pageLink target none]
  | pageLink target (some label) => visits target ++ visits label ++ [pageLink target (some label)]
  | webLink target label => visits target ++ visits label ++ [webLink target label]
  | element tag attributes children => element tag attributes children :: visitsAll children

def visitsAll : List Node → List Node
  | [] => []
  | node :: nodes => visits node ++ visitsAll nodes

end

theorem mem_visitsAll {node : Node} {nodes : List Node} :
    node ∈ visitsAll nodes ↔ ∃ n ∈ nodes, node ∈ visits n := by
  induction nodes with
  | nil => simp [visitsAll]
  | cons n nodes ih => simp [visitsAll, ih]

/-- The nodes that a node is made of, without what these are made of. -/
def parts : Node → List Node
  | seq children | call _ children | element _ _ children => children
  | pageLink target label => target :: label.toList
  | webLink target label => [target, label]
  | text _ | placeholder _ => []

theorem mem_visits_iff {n node : Node} :
    n ∈ node.visits ↔ n = node ∨ ∃ part ∈ node.parts, n ∈ part.visits := by
  cases node with
  | pageLink target label =>
    cases label with
    | none => simp [visits, parts, or_comm]
    | some label => simp [visits, parts, or_comm, or_left_comm]
  | webLink target label => simp [visits, parts, or_comm, or_assoc]
  | _ => simp [visits, parts, mem_visitsAll, or_comm]

/-- What holds of all nodes of a tree holds of its root and of all nodes in the parts of it. -/
theorem forall_mem_visits_iff {P : Node → Prop} {node : Node} :
    (∀ n ∈ node.visits, P n) ↔ P node ∧ ∀ part ∈ node.parts, ∀ n ∈ part.visits, P n := by
  constructor
  · intro h
    exact ⟨h _ (mem_visits_iff.mpr (.inl rfl)),
      fun part hpart n hm => h n (mem_visits_iff.mpr (.inr ⟨part, hpart, hm⟩))⟩
  · rintro ⟨hn, hp⟩ n hm
    rcases mem_visits_iff.mp hm with rfl | ⟨part, hpart, hm⟩
    · exact hn
    · exact hp part hpart n hm

theorem forall_mem_visits {P : Node → Prop} {node : Node} (hn : P node)
    (hp : ∀ part ∈ node.parts, ∀ n ∈ part.visits, P n) : ∀ n ∈ node.visits, P n :=
  forall_mem_visits_iff.mpr ⟨hn, hp⟩

/-- The error of a node that cannot be evaluated whatever its parts are. -/
def offence? (r : Registry) : Node → Option RenderError
  | call name _ =>
    if r.contains name || (Builtin.ofName? name).isSome then none
    else some (.unknownOperation name (suggestions (Text.lower name) r.names))
  | element tag attributes _ =>
    if isAllowedElement tag attributes then none else some (.elementNotAllowed tag)
  | _ => none

/-- The error of the first node in the order of evaluation that has one. -/
def firstOffence? (r : Registry) (node : Node) : Option RenderError :=
  node.visits.findSome? (offence? r)

end Markup.Node

theorem Operation.Registry.contains_iff (r : Registry) (name : String) :
    r.contains name = true ↔ Text.lower name ∈ r.registered := by
  simp [Registry.contains, Registry.get?, Registry.registered]

theorem Operation.Builtin.isSome_ofName?_iff (name : String) :
    (Builtin.ofName? name).isSome = true ↔ ∃ b ∈ Builtin.all, b.name = Text.lower name := by
  simp [Builtin.ofName?]

theorem Operation.Builtin.ofName?_name (b : Builtin) : Builtin.ofName? b.name = some b := by
  cases b <;> decide +kernel

theorem Operation.Builtin.lower_name (b : Builtin) : Text.lower b.name = b.name := by
  cases b <;> decide +kernel

theorem Operation.Builtin.ofName?_of_lower_eq {name : String} {b : Builtin}
    (h : Text.lower name = b.name) : Builtin.ofName? name = some b := by
  rw [← ofName?_name b, ofName?, ofName?, h, b.lower_name]

/-- A registry is asked for small letters. -/
theorem Operation.Registry.get?_of_lower_eq (r : Registry) {name : String} {b : Builtin}
    (h : Text.lower name = b.name) : r.get? name = r.get? b.name := by
  rw [get?, get?, h, b.lower_name]

namespace Markup.Node

variable {r : Registry} {node : Node}

theorem offence?_call_eq_none_iff {name : String} {args : List Node} :
    offence? r (.call name args) = none ↔
      Text.lower name ∈ r.registered ∨ ∃ b ∈ Builtin.all, b.name = Text.lower name := by
  rw [← Registry.contains_iff, ← Builtin.isSome_ofName?_iff, ← Bool.or_eq_true, offence?]
  split
  · rename_i h
    simp only [h]
  · rename_i h
    simp only [h, reduceCtorEq]

/-- No node of the tree is at fault exactly when all its operations are known and all its elements
are allowed. -/
theorem firstOffence?_eq_none_iff :
    node.firstOffence? r = none ↔
      (∀ name args, .call name args ∈ node.visits →
        Text.lower name ∈ r.registered ∨ ∃ b ∈ Builtin.all, b.name = Text.lower name) ∧
      ∀ tag attributes children, .element tag attributes children ∈ node.visits →
        isAllowedElement tag attributes = true := by
  rw [firstOffence?, List.findSome?_eq_none_iff]
  constructor
  · intro h
    constructor
    · exact fun name args hm => offence?_call_eq_none_iff.mp (h _ hm)
    · intro tag attributes children hm
      have he := h _ hm
      simpa [offence?] using he
  · rintro ⟨hc, he⟩ n hm
    cases n with
    | call name args => exact offence?_call_eq_none_iff.mpr (hc name args hm)
    | element tag attributes children => simp [offence?, he tag attributes children hm]
    | _ => rfl

/-- The nodes of a sanitized tree are sanitized. -/
theorem sanitized_of_mem_visits (h : Sanitized node) : ∀ n ∈ node.visits, Sanitized n := by
  induction h with
  | text h => exact forall_mem_visits (.text h) (by simp [parts])
  | placeholder => exact forall_mem_visits .placeholder (by simp [parts])
  | seq h ih => exact forall_mem_visits (.seq h) ih
  | call h ih => exact forall_mem_visits (.call h) ih
  | pageLink ht hl iht ihl =>
    exact forall_mem_visits (.pageLink ht hl) (by simpa [parts] using ⟨iht, ihl⟩)
  | webLink ht hl iht ihl =>
    exact forall_mem_visits (.webLink ht hl) (by simpa [parts] using ⟨iht, ihl⟩)
  | element ha h ih => exact forall_mem_visits (.element ha h) ih

/-- A sanitized tree never fails at an element. -/
theorem firstOffence?_ne_elementNotAllowed (h : Sanitized node) (tag : String) :
    node.firstOffence? r ≠ some (.elementNotAllowed tag) := by
  intro he
  obtain ⟨n, hm, hn⟩ := List.exists_of_findSome?_eq_some he
  cases sanitized_of_mem_visits h n hm with
  | element ha _ => simp [offence?, ha] at hn
  | call _ =>
    rw [offence?] at hn
    split at hn <;> cases hn
  | _ => cases hn

theorem firstOffence?_ne_unreadable (e : ParseError) :
    node.firstOffence? r ≠ some (.unreadable e) := by
  intro he
  obtain ⟨n, -, hn⟩ := List.exists_of_findSome?_eq_some he
  unfold offence? at hn
  split at hn
  · split at hn <;> cases hn
  · split at hn <;> cases hn
  · cases hn

end Markup.Node

namespace Context

open Node

theorem failure?_call (ctx : Context) (name : String) (args : List Value) (nodes : List Node) :
    failure? (ctx.call name args) = offence? ctx.registry (.call name nodes) := by
  unfold Context.call
  split
  · rename_i hr
    simp [offence?, Registry.contains, hr]
  · rename_i hr
    split
    · rename_i hb
      simp [offence?, Registry.contains, hr, hb]
    · rename_i hb
      simp [offence?, Registry.contains, hr, hb]

theorem call_of_lower_eq {ctx : Context} {name : String} {b : Builtin}
    (hr : ctx.registry.get? b.name = none) (h : Text.lower name = b.name) (args : List Value) :
    ctx.call name args = .ok (b.apply ctx.data ctx.language args) := by
  rw [call, ctx.registry.get?_of_lower_eq h, hr, Builtin.ofName?_of_lower_eq h]

/-- A sequence is the text of its parts, unless another operation joins them. -/
theorem emit_seq {ctx : Context} (hr : ctx.registry.get? Builtin.concat.name = none)
    (nodes : List Node) :
    ctx.emit (.seq nodes) = (ctx.emitAll nodes).map fun vs => .string (Value.joinText vs) := by
  rw [emit]
  cases ctx.emitAll nodes with
  | error e => rfl
  | ok values => exact call_of_lower_eq hr (Builtin.lower_name _) values

/-- An operation of the language itself can always be called. -/
theorem failure?_call_name (ctx : Context) (b : Builtin) (args : List Value) :
    failure? (ctx.call b.name args) = none := by
  simp [failure?_call ctx b.name args [], offence?, Builtin.ofName?_name]

mutual

theorem failure?_emit (ctx : Context) :
    ∀ node : Node, failure? (ctx.emit node) = node.visits.findSome? (offence? ctx.registry)
  | .text s => by simp [emit, visits, offence?]
  | .placeholder index => by simp [emit, visits, offence?]
  | .seq children => by
    rw [emit, failure?_bind (failure?_call_name ctx _), failure?_emitAll ctx children]
    simp [visits, offence?, List.findSome?_append]
  | .call name args => by
    rw [emit, failure?_bind (failure?_call ctx name · args), failure?_emitAll ctx args]
    simp [visits, List.findSome?_append]
  | .pageLink target none => by
    rw [emit, failure?_bind fun _ => failure?_call_name ctx _ _, failure?_emit ctx target]
    simp [visits, offence?, List.findSome?_append]
  | .pageLink target (some label) => by
    rw [emit, failure?_bind fun _ => failure?_bind fun _ => failure?_call_name ctx _ _,
      failure?_emit ctx target, failure?_emit ctx label]
    simp [visits, offence?, List.findSome?_append]
  | .webLink target label => by
    rw [emit, failure?_bind fun _ => failure?_bind fun _ => failure?_call_name ctx _ _,
      failure?_emit ctx target, failure?_emit ctx label]
    simp [visits, offence?, List.findSome?_append]
  | .element tag attributes children => by
    rw [emit]
    cases ha : isAllowedElement tag attributes with
    | false => simp [visits, offence?, ha]
    | true =>
      rw [if_pos rfl, failure?_bind fun _ => failure?_ok _, failure?_emitAll ctx children]
      simp [visits, offence?, ha]

theorem failure?_emitAll (ctx : Context) :
    ∀ nodes : List Node,
      failure? (ctx.emitAll nodes) = (visitsAll nodes).findSome? (offence? ctx.registry)
  | [] => by simp [emitAll, visitsAll]
  | node :: nodes => by
    rw [emitAll, failure?_bind fun _ => failure?_bind fun _ => failure?_ok _,
      failure?_emit ctx node, failure?_emitAll ctx nodes]
    simp [visitsAll, List.findSome?_append]

end

theorem failure?_evaluate (ctx : Context) (node : Node) :
    failure? (ctx.evaluate node) = node.firstOffence? ctx.registry := by
  rw [evaluate, failure?_map, failure?_emit, firstOffence?]

theorem render_ne_elementNotAllowed (ctx : Context) (links : Bool) (message tag : String) :
    ctx.render links message ≠ .error (.elementNotAllowed tag) := by
  unfold render
  split
  · rename_i node hp
    rw [ne_eq, ← failure?_eq_some_iff, failure?_evaluate]
    exact firstOffence?_ne_elementNotAllowed (parse_sanitized hp) tag
  · intro h
    cases h

/-- A message cannot be read exactly if it cannot be parsed; no tree is unreadable. -/
theorem render_eq_unreadable_iff (ctx : Context) (links : Bool) (message : String)
    (e : ParseError) :
    ctx.render links message = .error (.unreadable e) ↔ parse links message = .error e := by
  rw [render]
  cases parse links message with
  | error e' => simp
  | ok node =>
    rw [← failure?_eq_some_iff, failure?_evaluate]
    exact iff_of_false (Node.firstOffence?_ne_unreadable e) (by simp)

/-- Evaluation succeeds exactly when the tree calls known operations and holds allowed elements
only, and otherwise fails as its first offending node does. Two runs with the same operations fail
alike, and what was parsed never fails at an element. -/
theorem evaluate_decided_by_tree (registry : Registry) (node : Node) :
    (∀ params language data,
      (∃ text, (Context.mk registry params language data).evaluate node = .ok text) ↔
        (∀ name args, .call name args ∈ node.visits →
          Text.lower name ∈ registry.registered ∨ ∃ b ∈ Builtin.all, b.name = Text.lower name) ∧
        ∀ tag attributes children, .element tag attributes children ∈ node.visits →
          isAllowedElement tag attributes = true) ∧
      (∀ params language data e,
        (Context.mk registry params language data).evaluate node = .error e ↔
          node.firstOffence? registry = some e) ∧
      (∀ params params' language language' data data',
        failure? ((Context.mk registry params language data).evaluate node) =
          failure? ((Context.mk registry params' language' data').evaluate node)) ∧
      ∀ params language data links message tag,
        (Context.mk registry params language data).render links message ≠
          .error (.elementNotAllowed tag) := by
  refine ⟨fun params language data => ?_, fun params language data e => ?_, fun _ _ _ _ _ _ => ?_,
    ?_⟩
  · rw [← failure?_eq_none_iff, failure?_evaluate]
    exact firstOffence?_eq_none_iff
  · rw [← failure?_eq_some_iff, failure?_evaluate]
  · rw [failure?_evaluate, failure?_evaluate]
  · exact fun _ _ _ links message tag => render_ne_elementNotAllowed _ links message tag

end Context
end WikiMessage
