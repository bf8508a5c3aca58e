import Mathlib.Data.List.Forall2
import WikiMessage.Proofs.Evaluation.Outcome
import WikiMessage.Proofs.Evaluation.Safe
import WikiMessage.Proofs.Number.Written

/-!
# Arguments in sequences of their own

An argument that stands alone is handed to its operation as it is, and a number stays a number. In a
sequence of its own the same argument becomes text. No operation tells a number from its text,
except that a number is not read in the format of the language.
-/

namespace WikiMessage

open Markup Operation

namespace Markup.Node

/-- One argument of one operation, somewhere in the tree, is put into a sequence of its own. -/
inductive Wraps : Node → Node → Prop
  | arg (name : String) (before : List Node) (n : Node) (after : List Node) :
      Wraps (call name (before ++ n :: after)) (call name (before ++ seq [n] :: after))
  | inCall (name : String) (before after : List Node) {n n' : Node} (h : Wraps n n') :
      Wraps (call name (before ++ n :: after)) (call name (before ++ n' :: after))
  | inSeq (before after : List Node) {n n' : Node} (h : Wraps n n') :
      Wraps (seq (before ++ n :: after)) (seq (before ++ n' :: after))
  | inElement (tag : String) (attributes : List Attribute) (before after : List Node)
      {n n' : Node} (h : Wraps n n') :
      Wraps (element tag attributes (before ++ n :: after))
        (element tag attributes (before ++ n' :: after))
  | inPageTarget (label : Option Node) {n n' : Node} (h : Wraps n n') :
      Wraps (pageLink n label) (pageLink n' label)
  | inPageLabel (target : Node) {n n' : Node} (h : Wraps n n') :
      Wraps (pageLink target (some n)) (pageLink target (some n'))
  | inWebTarget (label : Node) {n n' : Node} (h : Wraps n n') :
      Wraps (webLink n label) (webLink n' label)
  | inWebLabel (target : Node) {n n' : Node} (h : Wraps n n') :
      Wraps (webLink target n) (webLink target n')

theorem visitsAll_append (before after : List Node) :
    visitsAll (before ++ after) = visitsAll before ++ visitsAll after := by
  induction before with
  | nil => rfl
  | cons n before ih => rw [List.cons_append, visitsAll, visitsAll, ih, List.append_assoc]

variable {node node' : Node}

/-- No node comes to be at fault, and none stops to be. -/
theorem Wraps.findSome?_visits (h : Wraps node node') (r : Registry) :
    node'.visits.findSome? (offence? r) = node.visits.findSome? (offence? r) := by
  induction h with
  | arg name before n after =>
    simp [visits, visitsAll, visitsAll_append, List.findSome?_append, List.findSome?_cons, offence?]
  | inCall name before after h ih =>
    simp [visits, visitsAll, visitsAll_append, List.findSome?_append, offence?, ih]
  | inSeq before after h ih =>
    simp [visits, visitsAll, visitsAll_append, List.findSome?_append, offence?, ih]
  | inElement tag attributes before after h ih =>
    simp [visits, visitsAll, visitsAll_append, List.findSome?_append, List.findSome?_cons, offence?,
      ih]
  | inPageTarget label h ih =>
    cases label <;> simp [visits, List.findSome?_append, offence?, ih]
  | inPageLabel target h ih => simp [visits, List.findSome?_append, offence?, ih]
  | inWebTarget label h ih => simp [visits, List.findSome?_append, offence?, ih]
  | inWebLabel target h ih => simp [visits, List.findSome?_append, offence?, ih]

end Markup.Node

namespace Value

/-- What may come in the place of a value: the value itself, or one of the same text where there was
no text. -/
inductive Replaces (v' v : Value) : Prop
  | same (h : v' = v)
  | retold (hv : v.asString? = none) (h : v'.toText = v.toText)

variable {v v' : Value} {args args' : List Value}

theorem Replaces.toText (h : v'.Replaces v) : v'.toText = v.toText := by
  rcases h with rfl | ⟨-, h⟩
  · rfl
  · exact h

theorem replaces_string (v : Value) : (string v.toText).Replaces v := by
  cases v with
  | string s => exact .same rfl
  | _ => exact .retold rfl rfl

theorem Replaces.isEmpty (h : v'.Replaces v) : v'.isEmpty = v.isEmpty := by
  rw [isEmpty_eq, isEmpty_eq, h.toText]

theorem texts_of_replaces (h : List.Forall₂ Replaces args' args) :
    args'.map Value.toText = args.map Value.toText := by
  induction h with
  | nil => rfl
  | cons h _ ih => rw [List.map_cons, List.map_cons, h.toText, ih]

theorem replaces_arg (h : List.Forall₂ Replaces args' args) (index : Nat) :
    (args'[index]?.getD .empty).Replaces (args[index]?.getD .empty) := by
  induction h generalizing index with
  | nil => exact .same rfl
  | cons h _ ih =>
    cases index with
    | zero => exact h
    | succ index => simpa using ih index

end Value

namespace Language

variable {symbols : Number.SymbolSource} {v v' : Value}

/-- The text of the value, read as a number of the language, is shown as the value itself read so.
There is no doubt about texts, which are read anyway. -/
def ReadsBack (symbols : Number.SymbolSource) (l : Language) (v : Value) : Prop :=
  (l.parseNumberWith symbols (.string v.toText)).toText = (l.parseNumberWith symbols v).toText

theorem readsBack_string (symbols : Number.SymbolSource) (l : Language) (s : String) :
    l.ReadsBack symbols (.string s) := rfl

/-- No number is written as the empty text. -/
theorem readsBack_empty (symbols : Number.SymbolSource) (l : Language) :
    l.ReadsBack symbols .empty := by
  have hp : Number.plainChars symbols "" l.tag = [] := by
    rw [Number.plainChars, Number.toLatinChars_eq_map]
    rfl
  have hn : Number.parseWith? symbols "" l.tag = none := by
    rw [Number.parseWith?, hp]
    rfl
  simp only [ReadsBack, parseNumberWith, Value.toText, hn]

theorem parseNumberWith_of_asString? (l : Language) (h : v.asString? = none) :
    l.parseNumberWith symbols v = v := by
  cases v with
  | string s => cases h
  | _ => rfl

theorem readsBack_number (hk : symbols.KeepsMinus) (l : Language) {n : Int}
    (h : n.natAbs < wholeBound) : l.ReadsBack symbols (.number n) :=
  congrArg Value.toText (l.parseNumberWith_signedText hk h)

theorem pluralWith_congr (rules : Plural.RuleSource) (l : Language) (h : v'.toText = v.toText)
    (forms : List String) : l.pluralWith rules v' forms = l.pluralWith rules v forms := by
  simp only [pluralWith, l.countText_eq, h]

theorem replaces_formatNumberWith (l : Language) (h : v'.Replaces v) :
    (l.formatNumberWith symbols v').Replaces (l.formatNumberWith symbols v) := by
  unfold formatNumberWith
  rw [l.countText_eq, l.countText_eq, h.toText]
  split
  · exact .same rfl
  · exact h

theorem replaces_parseNumberWith (l : Language) (h : v'.Replaces v) (hr : l.ReadsBack symbols v) :
    (l.parseNumberWith symbols v').Replaces (l.parseNumberWith symbols v) := by
  rcases h with rfl | ⟨hv, ht⟩
  · exact .same rfl
  · rw [ReadsBack, ← ht] at hr
    have hp : (l.parseNumberWith symbols v').toText = v'.toText := by
      cases hs : v'.asString? with
      | none => rw [l.parseNumberWith_of_asString? hs]
      | some s =>
        rw [l.parseNumberWith_of_asString? hv, ← ht] at hr
        cases v' with
        | string s => exact hr
        | _ => cases hs
    rw [l.parseNumberWith_of_asString? hv]
    exact .retold hv (hp.trans ht)

end Language

namespace Operation

variable {args args' : List Value}

theorem argText_eq (args : List Value) (index : Nat) :
    argText args index = (args.map Value.toText)[index]?.getD "" := by
  rw [argText, List.getElem?_map]
  cases args[index]? <;> rfl

/-- An operation gives the same for arguments of the same texts, if a number that it reads is read
back from its text. -/
theorem Builtin.replaces_apply (data : LanguageData) (l : Language) (b : Builtin)
    (h : List.Forall₂ Value.Replaces args' args)
    (hr : b = formatNumber → argText args 1 = "R" →
      l.ReadsBack data.symbols (args[0]?.getD .empty)) :
    (b.apply data l args').Replaces (b.apply data l args) := by
  have ht := Value.texts_of_replaces h
  have ha (index : Nat) : argText args' index = argText args index := by
    rw [argText_eq, argText_eq, ht]
  cases b with
  | concat =>
    refine .same ?_
    simp only [apply, Value.joinText, ht]
  | plural =>
    refine .same ?_
    cases h with
    | nil => rfl
    | cons hc hf =>
      simp only [apply, Operation.plural, l.pluralWith_congr data.rules hc.toText,
        Value.texts_of_replaces hf]
  | gender =>
    refine .same ?_
    simp only [apply, ha, List.map_drop, ht]
  | grammar =>
    simp only [apply, Operation.grammar, ha, (Value.replaces_arg h 1).isEmpty]
    split
    · exact Value.replaces_arg h 1
    · exact .same (by rw [(Value.replaces_arg h 1).toText])
  | bidi => exact .same (by simp only [apply, ha])
  | formatNumber =>
    simp only [apply, Operation.formatNumber, ha]
    split
    · rename_i hR
      exact l.replaces_parseNumberWith (Value.replaces_arg h 0) (hr rfl hR)
    · exact l.replaces_formatNumberWith (Value.replaces_arg h 0)
  | pageLink =>
    refine .same ?_
    simp only [apply, ha, ← List.getElem?_map, ht]
  | webLink => exact .same (by simp only [apply, ha])

end Operation

namespace Context

variable {ctx : Context} {node node' n n' : Node}

/-- Each number that is read in the tree is read back from its text. -/
def ReadsBack (ctx : Context) (node : Node) : Prop :=
  ∀ name args values, .call name args ∈ node.visits →
    Text.lower name = Builtin.formatNumber.name → ctx.emitAll args = .ok values →
    argText values 1 = "R" → ctx.language.ReadsBack ctx.data.symbols (values[0]?.getD .empty)

theorem ReadsBack.of_subset (h : ctx.ReadsBack node) (hs : n.visits ⊆ node.visits) :
    ctx.ReadsBack n :=
  fun name args values hm => h name args values (hs hm)

theorem emitAll_append {before after : List Node} {values : List Value} :
    ctx.emitAll (before ++ after) = .ok values ↔
      ∃ vs ws, ctx.emitAll before = .ok vs ∧ ctx.emitAll after = .ok ws ∧ values = vs ++ ws := by
  induction before generalizing values with
  | nil => simp [emitAll]
  | cons m before ih =>
    simp only [List.cons_append, emitAll, bind_eq_ok_iff, ih, Except.ok.injEq]
    constructor
    · rintro ⟨v, hv, _, ⟨vs, ws, hvs, hws, rfl⟩, rfl⟩
      exact ⟨v :: vs, ws, ⟨v, hv, vs, hvs, rfl⟩, hws, rfl⟩
    · rintro ⟨_, ws, ⟨v, hv, vs, hvs, rfl⟩, hws, rfl⟩
      exact ⟨v, hv, vs ++ ws, ⟨vs, ws, hvs, hws, rfl⟩, rfl⟩

theorem emitAll_replaced (h : ∀ v, ctx.emit n = .ok v → ∃ v', ctx.emit n' = .ok v' ∧ v'.Replaces v)
    {before after : List Node} {values : List Value}
    (hv : ctx.emitAll (before ++ n :: after) = .ok values) :
    ∃ values', ctx.emitAll (before ++ n' :: after) = .ok values' ∧
      List.Forall₂ Value.Replaces values' values := by
  have hsame (vs : List Value) : List.Forall₂ Value.Replaces vs vs :=
    List.forall₂_same.mpr fun _ _ => .same rfl
  obtain ⟨vs, _, hvs, hw, rfl⟩ := emitAll_append.mp hv
  obtain ⟨v, hn, hw⟩ := bind_eq_ok_iff.mp hw
  obtain ⟨ws, hws, hw⟩ := bind_eq_ok_iff.mp hw
  obtain rfl := Except.ok.inj hw
  obtain ⟨v', hv', hr⟩ := h v hn
  refine ⟨vs ++ v' :: ws, emitAll_append.mpr ⟨vs, v' :: ws, hvs, ?_, rfl⟩, ?_⟩
  · rw [emitAll, hv', hws]
    rfl
  · exact List.rel_append (hsame vs) (.cons hr (hsame ws))

/-- The parts of a node are evaluated, and the operation of the node is called with them. -/
theorem operation_replaced (hr : ctx.registry = .empty)
    (h : ∀ v, ctx.emit n = .ok v → ∃ v', ctx.emit n' = .ok v' ∧ v'.Replaces v) {name : String}
    (before after : List Node)
    (hb : Text.lower name = Builtin.formatNumber.name → ∀ values,
      ctx.emitAll (before ++ n :: after) = .ok values → argText values 1 = "R" →
        ctx.language.ReadsBack ctx.data.symbols (values[0]?.getD .empty))
    {v : Value} (hv : (ctx.emitAll (before ++ n :: after) >>= ctx.call name) = .ok v) :
    ∃ v', (ctx.emitAll (before ++ n' :: after) >>= ctx.call name) = .ok v' ∧ v'.Replaces v := by
  obtain ⟨values, hvs, hv⟩ := bind_eq_ok_iff.mp hv
  obtain ⟨values', hvs', hf⟩ := emitAll_replaced h hvs
  have hn : ctx.registry.get? name = none := by
    simp [hr, Registry.get?, Registry.empty]
  rw [call, hn] at hv
  cases ho : Builtin.ofName? name with
  | none =>
    rw [ho] at hv
    cases hv
  | some b =>
    rw [ho] at hv
    obtain rfl := Except.ok.inj hv
    have hl : b.name = Text.lower name :=
      of_decide_eq_true (List.find?_some (p := fun b : Builtin => b.name = Text.lower name) ho)
    refine ⟨b.apply ctx.data ctx.language values', bind_eq_ok_iff.mpr ⟨values', hvs', ?_⟩,
      b.replaces_apply ctx.data ctx.language hf fun he => hb (by rw [← hl, he]) values hvs⟩
    rw [call, hn, ho]

theorem lower_name_ne {b c : Builtin} (h : b ≠ c) : Text.lower b.name ≠ c.name := by
  intro hl
  have ho := Builtin.ofName?_of_lower_eq hl
  rw [Builtin.ofName?_name] at ho
  exact h (Option.some.inj ho)

theorem emit_pageLink (ctx : Context) (target : Node) (label : Option Node) :
    ctx.emit (.pageLink target label) =
      ctx.emitAll (target :: label.toList) >>= ctx.call Builtin.pageLink.name := by
  cases label with
  | none =>
    simp only [emit, emitAll, Option.toList_none, bind_assoc]
    rfl
  | some label =>
    simp only [emit, emitAll, Option.toList_some, bind_assoc]
    rfl

theorem emit_webLink (ctx : Context) (target label : Node) :
    ctx.emit (.webLink target label) =
      ctx.emitAll [target, label] >>= ctx.call Builtin.webLink.name := by
  simp only [emit, emitAll, bind_assoc]
  rfl

theorem emit_seq_singleton (hr : ctx.registry = .empty) {v : Value} (h : ctx.emit n = .ok v) :
    ctx.emit (.seq [n]) = .ok (.string v.toText) := by
  have hn : ctx.registry.get? Builtin.concat.name = none := by
    simp [hr, Registry.get?, Registry.empty]
  rw [emit_seq hn, emitAll, h]
  show Except.ok (Value.string (Value.joinText [v])) = _
  simp [Value.joinText]

theorem ReadsBack.of_visitsAll (h : ctx.ReadsBack node) (before after : List Node)
    (hs : Node.visitsAll (before ++ n :: after) ⊆ node.visits) : ctx.ReadsBack n :=
  h.of_subset fun _ hm => hs (Node.mem_visitsAll.mpr ⟨n, by simp, hm⟩)

/-- What the tree evaluates to is replaced by a value of the same text. -/
theorem emit_wraps (hr : ctx.registry = .empty) (h : node.Wraps node') (hb : ctx.ReadsBack node)
    {v : Value} (hv : ctx.emit node = .ok v) :
    ∃ v', ctx.emit node' = .ok v' ∧ v'.Replaces v := by
  induction h generalizing v with
  | arg name before n after =>
    rw [emit] at hv ⊢
    exact operation_replaced hr (fun v hn => ⟨_, emit_seq_singleton hr hn, v.replaces_string⟩)
      before after (fun hl values => hb name _ values (by simp [Node.visits]) hl) hv
  | @inCall name before after n n' _ ih =>
    have hbn : ctx.ReadsBack n := hb.of_visitsAll before after (by simp [Node.visits])
    rw [emit] at hv ⊢
    exact operation_replaced hr (fun v => ih hbn) before after
      (fun hl values => hb name _ values (by simp [Node.visits]) hl) hv
  | @inSeq before after n n' _ ih =>
    have hbn : ctx.ReadsBack n := hb.of_visitsAll before after (by simp [Node.visits])
    rw [emit] at hv ⊢
    exact operation_replaced hr (fun v => ih hbn) before after
      (fun hl => absurd hl (lower_name_ne (by decide))) hv
  | @inElement tag attributes before after n n' _ ih =>
    have hbn : ctx.ReadsBack n := hb.of_visitsAll before after (by simp [Node.visits])
    rw [emit] at hv ⊢
    split at hv
    · rename_i ha
      rw [if_pos ha]
      obtain ⟨values, hvs, hv⟩ := bind_eq_ok_iff.mp hv
      obtain ⟨values', hvs', hf⟩ := emitAll_replaced (fun v => ih hbn) hvs
      obtain rfl := Except.ok.inj hv
      refine ⟨_, bind_eq_ok_iff.mpr ⟨_, hvs', rfl⟩, .same ?_⟩
      rw [Value.joinText, Value.joinText, Value.texts_of_replaces hf]
    · cases hv
  | @inPageTarget label n n' _ ih =>
    have hbn : ctx.ReadsBack n := hb.of_subset (by cases label <;> simp [Node.visits])
    rw [emit_pageLink] at hv ⊢
    exact operation_replaced hr (fun v => ih hbn) [] _
      (fun hl => absurd hl (lower_name_ne (by decide))) hv
  | @inPageLabel target n n' _ ih =>
    have hbn : ctx.ReadsBack n := hb.of_subset (by simp [Node.visits])
    rw [emit_pageLink] at hv ⊢
    exact operation_replaced hr (fun v => ih hbn) [target] []
      (fun hl => absurd hl (lower_name_ne (by decide))) hv
  | @inWebTarget label n n' _ ih =>
    have hbn : ctx.ReadsBack n := hb.of_subset (by simp [Node.visits])
    rw [emit_webLink] at hv ⊢
    exact operation_replaced hr (fun v => ih hbn) [] _
      (fun hl => absurd hl (lower_name_ne (by decide))) hv
  | @inWebLabel target n n' _ ih =>
    have hbn : ctx.ReadsBack n := hb.of_subset (by simp [Node.visits])
    rw [emit_webLink] at hv ⊢
    exact operation_replaced hr (fun v => ih hbn) [target] []
      (fun hl => absurd hl (lower_name_ne (by decide))) hv

theorem evaluate_wraps (hr : ctx.registry = .empty) (h : node.Wraps node')
    (hb : ctx.ReadsBack node) : ctx.evaluate node' = ctx.evaluate node := by
  cases he : ctx.emit node with
  | error e =>
    have hf : failure? (ctx.emit node') = some e := by
      rw [failure?_emit, h.findSome?_visits, ← failure?_emit, he, failure?_error]
    rw [evaluate, evaluate, he, failure?_eq_some_iff.mp hf]
  | ok v =>
    obtain ⟨v', hv', hrep⟩ := emit_wraps hr h hb he
    rw [evaluate, evaluate, he, hv']
    exact congrArg Except.ok hrep.toText

/-- A number that is read is shown as before exactly if it is read back from its text. -/
theorem evaluate_reading_iff (hr : ctx.registry = .empty) {name : String}
    (hn : Text.lower name = Builtin.formatNumber.name) {args : List Node} {v : Value}
    {values : List Value} (hv : ctx.emit n = .ok v) (hvs : ctx.emitAll args = .ok values)
    (hR : argText (v :: values) 1 = "R") :
    ctx.evaluate (.call name (.seq [n] :: args)) = ctx.evaluate (.call name (n :: args)) ↔
      ctx.language.ReadsBack ctx.data.symbols v := by
  have hf : ctx.registry.get? Builtin.formatNumber.name = none := by
    simp [hr, Registry.get?, Registry.empty]
  have he {m : Node} {w : Value} (hw : ctx.emit m = .ok w)
      (hR : argText (w :: values) 1 = "R") :
      ctx.evaluate (.call name (m :: args)) =
        .ok (ctx.language.parseNumberWith ctx.data.symbols w).toText := by
    rw [evaluate, emit, emitAll, hw, hvs]
    show (ctx.call name (w :: values)).map Value.toText = _
    rw [call_of_lower_eq hf hn]
    simp [Builtin.apply, formatNumber, hR, Except.map]
  rw [he hv hR, he (emit_seq_singleton hr hv) hR, Except.ok.injEq]
  rfl

/-- An argument may be put into a sequence of its own wherever it stands. That never makes an
evaluation fail or succeed, nor changes its error, and it does not change the text either if every
number that is read is read back from its text. This condition is needed; it is met by texts in any
case, and by whole numbers below the bound in every language, if no language writes a digit or a
separator as the minus of ASCII. -/
theorem evaluate_of_wraps (params : List Value) (language : Language) (data : LanguageData) :
    let ctx : Context := ⟨.empty, params, language, data⟩
    (∀ node node', node.Wraps node' →
      failure? (ctx.evaluate node') = failure? (ctx.evaluate node) ∧
        (ctx.ReadsBack node → ctx.evaluate node' = ctx.evaluate node)) ∧
      (∀ name n args v values, Text.lower name = Builtin.formatNumber.name →
        ctx.emit n = .ok v → ctx.emitAll args = .ok values → argText (v :: values) 1 = "R" →
          (ctx.evaluate (.call name (.seq [n] :: args)) = ctx.evaluate (.call name (n :: args)) ↔
            language.ReadsBack data.symbols v)) ∧
      language.ReadsBack data.symbols .empty ∧
      (∀ s, language.ReadsBack data.symbols (.string s)) ∧
      (data.symbols.KeepsMinus → ∀ n : Int, n.natAbs < Language.wholeBound →
        language.ReadsBack data.symbols (.number n)) := by
  intro ctx
  refine ⟨fun node node' h => ⟨?_, evaluate_wraps rfl h⟩,
    fun name n args v values hn hv hvs hR => evaluate_reading_iff rfl hn hv hvs hR,
    language.readsBack_empty data.symbols, language.readsBack_string data.symbols,
    fun hk n => language.readsBack_number hk⟩
  rw [failure?_evaluate, failure?_evaluate]
  exact h.findSome?_visits _

/-- A whole number is read as it is shown, also inside a link. -/
theorem evaluate_of_wraps_german :
    let ctx : Context := ⟨.empty, [.number (-1234567)], .ofTag "de", .excerpt⟩
    let args (n : Node) : List Node := [n, .text "R"]
    ctx.data.symbols.KeepsMinus ∧
      ctx.ReadsBack (.webLink (.text "//a") (.call "formatNum" (args (.placeholder 0)))) ∧
      ctx.evaluate (.webLink (.text "//a") (.call "formatNum" (args (.placeholder 0)))) =
        .ok "<a href=\"//a\">-1234567</a>" ∧
      ctx.evaluate (.webLink (.text "//a") (.call "formatNum" (args (.seq [.placeholder 0])))) =
        .ok "<a href=\"//a\">-1234567</a>" := by
  intro ctx args
  obtain ⟨hwraps, -, -, -, hnumber⟩ := evaluate_of_wraps ctx.params ctx.language ctx.data
  have hk : ctx.data.symbols.KeepsMinus := LanguageData.keepsMinus_excerpt
  have hb : ctx.ReadsBack (.webLink (.text "//a") (.call "formatNum" (args (.placeholder 0)))) := by
    intro name parts values hm _ hvs _
    obtain ⟨-, rfl⟩ : name = "formatNum" ∧ parts = args (.placeholder 0) := by
      simpa [args, Node.visits, Node.visitsAll] using hm
    obtain rfl : [.number (-1234567), .string "R"] = values := Except.ok.inj hvs
    exact hnumber hk (-1234567) (by decide)
  have he : ctx.evaluate (.webLink (.text "//a") (.call "formatNum" (args (.placeholder 0)))) =
      .ok "<a href=\"//a\">-1234567</a>" := toOption_eq_some_iff.mp (by decide +kernel)
  have hw : Node.Wraps (.webLink (.text "//a") (.call "formatNum" (args (.placeholder 0))))
      (.webLink (.text "//a") (.call "formatNum" (args (.seq [.placeholder 0])))) :=
    .inWebLabel _ (.arg "formatNum" [] _ [.text "R"])
  exact ⟨hk, hb, he, ((hwraps _ _ hw).2 hb).trans he⟩

/-- The number one and a half is shown with a point, which separates groups in German. -/
theorem exists_wraps_evaluate_ne :
    ∃ (params : List Value) (node node' : Node), node.Wraps node' ∧
      (Context.mk .empty params (.ofTag "de") .excerpt).evaluate node = .ok "1.5" ∧
      (Context.mk .empty params (.ofTag "de") .excerpt).evaluate node' = .ok "15" := by
  refine ⟨[.float (.ofRatio false 3 2)], .call "formatnum" [.placeholder 0, .text "R"],
    .call "formatnum" [.seq [.placeholder 0], .text "R"],
    .arg "formatnum" [] (.placeholder 0) [.text "R"], ?_, ?_⟩
  · exact toOption_eq_some_iff.mp (by decide +kernel)
  · exact toOption_eq_some_iff.mp (by decide +kernel)

end Context
end WikiMessage
