import Std.Data.TreeMap
import WikiMessage.Numeral.Double

/-!
# JSON values

Objects keep their members as they were written, in order and with repeated names. `sorted` is the
same value with every object's members in the order of their names and the last of each name kept.
-/

namespace WikiMessage

inductive Json
  | null
  | bool (b : Bool)
  | integer (n : Int)
  | float (x : Numeral.Double)
  | string (s : String)
  | array (items : List Json)
  | object (members : List (String × Json))

namespace Json

instance : Inhabited Json := ⟨null⟩

/-- What an error calls a value. -/
def kindName : Json → String
  | null => "null"
  | bool _ => "a boolean"
  | integer _ | float _ => "a number"
  | string _ => "a string"
  | array _ => "an array"
  | object _ => "an object"

/-- The members in the order of their names, the last of each name only. -/
def sortMembers (members : List (String × Json)) : List (String × Json) :=
  (Std.TreeMap.ofList members).toList

mutual

def sorted : Json → Json
  | array items => array (sortedItems items)
  | object members => object (sortMembers (sortedMembers members))
  | value => value

def sortedItems : List Json → List Json
  | [] => []
  | item :: items => sorted item :: sortedItems items

def sortedMembers : List (String × Json) → List (String × Json)
  | [] => []
  | (name, value) :: members => (name, sorted value) :: sortedMembers members

end

def asStrings? (items : List Json) : Option (List String) :=
  items.mapM fun
    | string s => some s
    | _ => none

end Json
end WikiMessage
