import WikiMessage.Json.Basic
import WikiMessage.Markup.Node

/-! # Message trees as JSON -/

namespace WikiMessage.Markup

def Attribute.toJson (a : Attribute) : Json := .array [.string a.name, .string a.value]

namespace Node

mutual

def toJson : Node → Json
  | text s => .object [("literal", .string s)]
  | seq children => .object [("concat", .array (allToJson children))]
  | placeholder index => .object [("replace", .integer index)]
  | call name args =>
    .object [("operation", .object [("name", .string name), ("args", .array (allToJson args))])]
  | pageLink target none =>
    .object [("wikilink", .object [("target", toJson target), ("label", .null)])]
  | pageLink target (some label) =>
    .object [("wikilink", .object [("target", toJson target), ("label", toJson label)])]
  | webLink target label =>
    .object [("extlink", .object [("target", toJson target), ("label", toJson label)])]
  | element tag attributes children =>
    .object [("html_element", .object
      [("tag", .string tag), ("attributes", .array (attributes.map Attribute.toJson)),
        ("children", .array (allToJson children))])]

def allToJson : List Node → List Json
  | [] => []
  | node :: nodes => toJson node :: allToJson nodes

end

end Node
end WikiMessage.Markup
