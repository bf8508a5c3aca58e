import WikiMessage.Evaluation

/-!
# What evaluation asks of a language

Evaluation asks a language for its tag and for the format of numbers. The fallbacks of a language
are of no other use, so languages with different fallbacks may do the same to every message.
-/

namespace WikiMessage

open Markup Operation

namespace Language

/-- The same tag, and the same format for every number. -/
structure Alike (symbols : Number.SymbolSource) (l l' : Language) : Prop where
  tag : l.tag = l'.tag
  formatWith? : ∀ number, Number.formatWith? symbols number l.fallbacks =
    Number.formatWith? symbols number l'.fallbacks

variable {symbols : Number.SymbolSource} {l l' : Language}

theorem Alike.toLatin (h : Alike symbols l l') (text : String) :
    l.toLatin text = l'.toLatin text := by
  rw [Language.toLatin, Language.toLatin, h.tag]

theorem Alike.countText (h : Alike symbols l l') (v : Value) : l.countText v = l'.countText v := by
  cases v with
  | string s => exact h.toLatin _
  | _ => rfl

theorem Alike.formatNumberWith (h : Alike symbols l l') (v : Value) :
    l.formatNumberWith symbols v = l'.formatNumberWith symbols v := by
  simp only [Language.formatNumberWith, h.countText, h.formatWith?]

theorem Alike.parseNumberWith (h : Alike symbols l l') (v : Value) :
    l.parseNumberWith symbols v = l'.parseNumberWith symbols v := by
  cases v with
  | string s => simp only [Language.parseNumberWith, h.tag]
  | _ => rfl

theorem Alike.pluralWith (h : Alike symbols l l') (rules : Plural.RuleSource) (count : Value)
    (forms : List String) : l.pluralWith rules count forms = l'.pluralWith rules count forms := by
  simp only [Language.pluralWith, h.countText, h.tag]

theorem Alike.inflect (h : Alike symbols l l') (word form : String) :
    l.inflect word form = l'.inflect word form := by
  rw [Language.inflect, Language.inflect, h.tag]

theorem Alike.apply {data : LanguageData} (h : Alike data.symbols l l') (b : Builtin)
    (args : List Value) : b.apply data l args = b.apply data l' args := by
  cases b with
  | plural =>
    cases args with
    | nil => rfl
    | cons count forms => exact congrArg Value.string (h.pluralWith data.rules count _)
  | grammar => simp only [Builtin.apply, grammar, h.inflect]
  | formatNumber =>
    simp only [Builtin.apply, Operation.formatNumber, h.parseNumberWith, h.formatNumberWith]
  | _ => rfl

end Language

namespace Context

/-- The same operations, parameters and data, and languages that are alike. -/
structure Alike (ctx ctx' : Context) : Prop where
  registry : ctx.registry = ctx'.registry
  params : ctx.params = ctx'.params
  data : ctx.data = ctx'.data
  language : Language.Alike ctx'.data.symbols ctx.language ctx'.language

namespace Alike

variable {ctx ctx' : Context}

theorem param (h : ctx.Alike ctx') (index : Nat) : ctx.param index = ctx'.param index := by
  rw [Context.param, Context.param, h.params]

theorem call (h : ctx.Alike ctx') (name : String) (args : List Value) :
    ctx.call name args = ctx'.call name args := by
  rw [Context.call, Context.call, h.registry, h.params, h.data]
  simp only [h.language.apply]

mutual

theorem emit (h : ctx.Alike ctx') : ∀ node : Node, ctx.emit node = ctx'.emit node
  | .text s => rfl
  | .placeholder index => by rw [Context.emit, Context.emit, h.param]
  | .seq children => by simp only [Context.emit, emitAll h children, h.call]
  | .call name args => by simp only [Context.emit, emitAll h args, h.call]
  | .pageLink target none => by simp only [Context.emit, emit h target, h.call]
  | .pageLink target (some label) => by
    simp only [Context.emit, emit h target, emit h label, h.call]
  | .webLink target label => by simp only [Context.emit, emit h target, emit h label, h.call]
  | .element tag attributes children => by simp only [Context.emit, emitAll h children]

theorem emitAll (h : ctx.Alike ctx') : ∀ nodes : List Node, ctx.emitAll nodes = ctx'.emitAll nodes
  | [] => rfl
  | node :: nodes => by simp only [Context.emitAll, emit h node, emitAll h nodes]

end

/-- Languages that are alike make no difference to a message. -/
theorem render (h : ctx.Alike ctx') (links : Bool) (message : String) :
    ctx.render links message = ctx'.render links message := by
  simp only [Context.render, evaluate, h.emit]

end Alike

end Context
end WikiMessage
