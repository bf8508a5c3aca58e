/-!
# Message trees

A parsed message is a tree of texts, placeholders, calls, links and elements. `Node.mergeTexts`
joins neighbouring texts, so that equal messages have equal trees however their texts were read.
-/

namespace WikiMessage.Markup

structure Attribute where
  name : String
  value : String
  deriving DecidableEq, Repr

inductive Node
  | text (content : String)
  | seq (children : List Node)
  /-- A parameter of the message, counted from zero. -/
  | placeholder (index : Nat)
  | call (name : String) (args : List Node)
  /-- A link to a page; without a label it shows its target. -/
  | pageLink (target : Node) (label : Option Node)
  | webLink (target label : Node)
  | element (tag : String) (attributes : List Attribute) (children : List Node)

namespace Node

instance : Inhabited Node := ⟨text ""⟩

/-- A node in front of a list without neighbouring texts, joined to a text there. -/
def mergeInto : Node → List Node → List Node
  | text a, text b :: rest => text (a ++ b) :: rest
  | node, rest => node :: rest

def mergeTexts (nodes : List Node) : List Node := nodes.foldr mergeInto []

/-- The nodes in sequence, neighbouring texts joined. -/
def concat (nodes : List Node) : Node := seq (mergeTexts nodes)

/-- The nodes as one argument: a single node stands for itself, and no node for the empty text. -/
def collapse (nodes : List Node) : Node :=
  match mergeTexts nodes with
  | [] => text ""
  | [node] => node
  | merged => seq merged

@[simp] theorem mergeTexts_nil : mergeTexts [] = [] := rfl

@[simp] theorem mergeTexts_cons (node : Node) (nodes : List Node) :
    mergeTexts (node :: nodes) = mergeInto node (mergeTexts nodes) := rfl

theorem mergeInto_text_text (a b : String) (rest : List Node) :
    mergeInto (text a) (text b :: rest) = text (a ++ b) :: rest := rfl

end Node
end WikiMessage.Markup
