import WikiMessage.Markup.Grammar
import WikiMessage.Operation.Registry

/-!
# Evaluating messages

A tree is evaluated from the leaves up: the parts of a node from left to right, then its operation.
A registered operation takes the place of a built-in one of its name. Placeholders stand for
parameters as they are, and only joining makes text of them.
-/

namespace WikiMessage

open Markup Operation

inductive RenderError
  | unreadable (error : ParseError)
  | unknownOperation (name : String) (suggestions : List String)
  /-- A tree that was not parsed holds an element that may not be shown. -/
  | elementNotAllowed (tag : String)
  deriving DecidableEq, Repr

namespace RenderError

def message : RenderError → String
  | unreadable e => e.describe
  | unknownOperation name suggestions =>
    "unknown operation '" ++ name ++ "'" ++
      if suggestions.isEmpty then ""
      else ", did you mean: " ++ ", ".intercalate suggestions ++ "?"
  | elementNotAllowed tag =>
    "unexpected node in message tree: HTML element <" ++ tag ++ "> outside the allowlist"

end RenderError

/-- What a message is evaluated with. -/
structure Context where
  registry : Registry
  params : List Value
  language : Language
  data : LanguageData

/-- An attribute as it is rendered, with a blank in front. -/
def renderAttribute (a : Attribute) : String :=
  " " ++ Text.lower a.name ++ "=\"" ++ Text.escape a.value ++ "\""

def renderElement (tag : String) (attributes : List Attribute) (inner : String) : String :=
  "<" ++ Text.lower tag ++ String.join (attributes.map renderAttribute) ++ ">" ++ inner ++ "</" ++
    Text.lower tag ++ ">"

namespace Context

/-- A parameter, or the placeholder as it is written if there is none. -/
def param (ctx : Context) (index : Nat) : Value :=
  ctx.params[index]?.getD (.string ("$" ++ Numeral.text (index + 1)))

def call (ctx : Context) (name : String) (args : List Value) : Except RenderError Value :=
  match ctx.registry.get? name with
  | some handler => .ok (handler args ctx.params)
  | none =>
    match Builtin.ofName? name with
    | some builtin => .ok (builtin.apply ctx.data ctx.language args)
    | none => .error (.unknownOperation name (suggestions (Text.lower name) ctx.registry.names))

mutual

/-- The value of a node. -/
def emit (ctx : Context) : Node → Except RenderError Value
  | .text s => .ok (.string s)
  | .placeholder index => .ok (ctx.param index)
  | .seq children => do
    let args ← emitAll ctx children
    ctx.call Builtin.concat.name args
  | .call name args => do
    let args ← emitAll ctx args
    ctx.call name args
  | .pageLink target none => do
    let target ← emit ctx target
    ctx.call Builtin.pageLink.name [target]
  | .pageLink target (some label) => do
    let target ← emit ctx target
    let label ← emit ctx label
    ctx.call Builtin.pageLink.name [target, label]
  | .webLink target label => do
    let target ← emit ctx target
    let label ← emit ctx label
    ctx.call Builtin.webLink.name [target, label]
  | .element tag attributes children =>
    if isAllowedElement tag attributes then do
      let values ← emitAll ctx children
      .ok (.string (renderElement tag attributes (Value.joinText values)))
    else .error (.elementNotAllowed tag)

/-- The values of nodes from left to right, or the first error. -/
def emitAll (ctx : Context) : List Node → Except RenderError (List Value)
  | [] => .ok []
  | node :: nodes => do
    let value ← emit ctx node
    let values ← emitAll ctx nodes
    .ok (value :: values)

end

def evaluate (ctx : Context) (node : Node) : Except RenderError String :=
  (ctx.emit node).map Value.toText

/-- Parses and evaluates a message. -/
def render (ctx : Context) (links : Bool) (message : String) : Except RenderError String :=
  match parse links message with
  | .ok node => ctx.evaluate node
  | .error e => .error (.unreadable e)

end Context
end WikiMessage
