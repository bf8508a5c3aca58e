import Mathlib.Data.List.Chain
import WikiMessage.Proofs.Markup.Allowed

/-!
# Canonical sources

A message can be written down from what it should say. Every character of a text is written after a
backslash and nothing is left out or added between constructs, so that each tree has one canonical
source. `Canonical` says which trees have one: texts are not empty and never neighbours, links need
the option and do not nest, and an element is one that may be shown.
-/

namespace WikiMessage.Markup

open WikiMessage.Text

/-- What a message should say; arguments, targets, labels and children are sequences. -/
inductive Source
  | text (content : String)
  | placeholder (index : Nat)
  | call (name : String) (args : List (List Source))
  | element (tag : String) (attributes : List Attribute) (children : List Source)
  | pageLink (target : List Source) (label : Option (List Source))
  | webLink (target label : List Source)

/-- A sequence as one node: nothing is the empty text and a single node stands for itself. -/
def Node.group : List Node → Node
  | [] => .text ""
  | [node] => node
  | nodes => .seq nodes

namespace Source

mutual

/-- The canonical source of one construct. -/
def print : Source → List Char
  | text content => content.toList.flatMap fun c => ['\\', c]
  | placeholder index => '$' :: Numeral.digits (index + 1)
  | call name [] => "\x7b\x7b".toList ++ name.toList ++ "\x7d\x7d".toList
  | call name (first :: more) =>
    "\x7b\x7b".toList ++ name.toList ++ ':' :: printAll first ++ printBars more ++ "\x7d\x7d".toList
  | element tag attributes children =>
    '<' :: tag.toList ++ attributes.flatMap Attribute.print ++ '>' :: printAll children ++
      "</".toList ++ tag.toList ++ ['>']
  | pageLink target none => "[[".toList ++ printAll target ++ "]]".toList
  | pageLink target (some label) =>
    "[[".toList ++ printAll target ++ '|' :: printAll label ++ "]]".toList
  | webLink target label => '[' :: printAll target ++ ' ' :: printAll label ++ [']']

def printAll : List Source → List Char
  | [] => []
  | e :: es => print e ++ printAll es

/-- Sequences with a bar in front of each. -/
def printBars : List (List Source) → List Char
  | [] => []
  | a :: as => '|' :: printAll a ++ printBars as

end

mutual

/-- The node that a construct stands for; a `<` of a text is kept as a character reference. -/
def node : Source → Node
  | text content =>
    .text (String.ofList (content.toList.flatMap fun c => if c = '<' then "&lt;".toList else [c]))
  | placeholder index => .placeholder index
  | call name args => .call name (groups args)
  | element tag attributes children => .element tag attributes (nodes children)
  | pageLink target none => .pageLink (.group (nodes target)) none
  | pageLink target (some label) =>
    .pageLink (.group (nodes target)) (some (.group (nodes label)))
  | webLink target label => .webLink (.group (nodes target)) (.group (nodes label))

def nodes : List Source → List Node
  | [] => []
  | e :: es => node e :: nodes es

def groups : List (List Source) → List Node
  | [] => []
  | a :: as => .group (nodes a) :: groups as

end

def isText : Source → Bool
  | text _ => true
  | _ => false

/-- What the target of a link consists of. -/
def isTargetPart : Source → Bool
  | text _ | placeholder _ | call _ _ => true
  | _ => false

/-- No text follows another one. -/
def Separated (es : List Source) : Prop := es.IsChain fun e e' => ¬(e.isText ∧ e'.isText)

/-- Characters that a name may have, at least one, and no blank at either end. -/
structure IsCallName (name : String) : Prop where
  nonempty : name.toList ≠ []
  chars : ∀ c ∈ name.toList, isNameChar c = true
  first : ∀ c ∈ name.toList.head?, isBlank c = false
  last : ∀ c ∈ name.toList.getLast?, isBlank c = false

/-- An element that may be shown, in small letters, whose values can be quoted. -/
structure IsTag (tag : String) (attributes : List Attribute) : Prop where
  allowed : isAllowedElement tag attributes = true
  tag_lower : lowerAscii tag = tag
  name_lower : ∀ a ∈ attributes, lowerAscii a.name = a.name
  value : ∀ a ∈ attributes, '\x22' ∉ a.value.toList

/-- A construct that has a canonical source, where links may be made or not. -/
inductive Canonical : Bool → Source → Prop
  | text {links : Bool} {content : String} (h : content ≠ "") : Canonical links (.text content)
  | placeholder {links : Bool} {index : Nat} (h : index + 1 < Numeral.unsignedBound) :
      Canonical links (.placeholder index)
  | call {links : Bool} {name : String} {args : List (List Source)} (hn : IsCallName name)
      (hs : ∀ a ∈ args, Separated a) (ha : ∀ a ∈ args, ∀ e ∈ a, Canonical links e) :
      Canonical links (.call name args)
  | element {links : Bool} {tag : String} {attributes : List Attribute} {children : List Source}
      (ht : IsTag tag attributes) (hs : Separated children)
      (hc : ∀ e ∈ children, Canonical links e) : Canonical links (.element tag attributes children)
  | pageLink {target : List Source} (hn : target ≠ []) (hp : ∀ e ∈ target, e.isTargetPart = true)
      (hs : Separated target) (ht : ∀ e ∈ target, Canonical false e) :
      Canonical true (.pageLink target none)
  | labelledLink {target label : List Source} (hn : target ≠ [])
      (hp : ∀ e ∈ target, e.isTargetPart = true) (hs : Separated target)
      (ht : ∀ e ∈ target, Canonical false e) (hn' : label ≠ []) (hs' : Separated label)
      (hl : ∀ e ∈ label, Canonical false e) : Canonical true (.pageLink target (some label))
  | webLink {target label : List Source} (hn : target ≠ [])
      (hp : ∀ e ∈ target, e.isTargetPart = true) (hs : Separated target)
      (ht : ∀ e ∈ target, Canonical false e) (hn' : label ≠ []) (hs' : Separated label)
      (hl : ∀ e ∈ label, Canonical false e) : Canonical true (.webLink target label)

theorem printAll_eq_flatMap (es : List Source) : printAll es = es.flatMap print := by
  induction es with
  | nil => rfl
  | cons e es ih => rw [printAll, ih, List.flatMap_cons]

theorem nodes_eq_map (es : List Source) : nodes es = es.map node := by
  induction es with
  | nil => rfl
  | cons e es ih => rw [nodes, ih, List.map_cons]

theorem length_print_le {e : Source} {es : List Source} (h : e ∈ es) :
    (print e).length ≤ (printAll es).length := by
  obtain ⟨before, after, rfl⟩ := List.append_of_mem h
  simp only [printAll_eq_flatMap, List.flatMap_append, List.flatMap_cons, List.length_append]
  omega

theorem length_printAll_lt {a : List Source} {as : List (List Source)} (h : a ∈ as) :
    (printAll a).length < (printBars as).length := by
  induction as with
  | nil => cases h
  | cons b as ih =>
    simp only [printBars, List.length_append, List.length_cons]
    rcases List.mem_cons.mp h with rfl | h
    · omega
    · have := ih h
      omega

theorem isText_of_node {e : Source} {content : String} (h : e.node = .text content) :
    e.isText = true := by
  unfold node at h
  split at h
  · rfl
  all_goals cases h

/-- Merging texts does nothing to the nodes of a sequence without neighbouring texts. -/
theorem mergeTexts_nodes {es : List Source} (h : Separated es) :
    Node.mergeTexts (nodes es) = nodes es := by
  induction es with
  | nil => rfl
  | cons e es ih =>
    rw [nodes, Node.mergeTexts_cons, ih h.tail]
    unfold Node.mergeInto
    split
    · rename_i a b rest he hr
      cases es with
      | nil => cases hr
      | cons e' es =>
        obtain ⟨he', -⟩ := List.cons.inj hr
        exact absurd ⟨isText_of_node he, isText_of_node he'⟩ h.rel
    · rfl

theorem collapse_nodes {es : List Source} (h : Separated es) :
    Node.collapse (nodes es) = .group (nodes es) := by
  simp only [Node.collapse, mergeTexts_nodes h]
  rcases nodes es with _ | ⟨a, _ | ⟨b, es⟩⟩ <;> rfl

end Source
end WikiMessage.Markup
