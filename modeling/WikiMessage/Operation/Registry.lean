import Std.Data.TreeMap
import WikiMessage.Operation.Builtin
import WikiMessage.Operation.Suggestion
import WikiMessage.Text.Quoted

/-!
# Registered operations

Operations may be added under names of their own or in place of built-in ones. Names differ only if
they differ in small letters.
-/

namespace WikiMessage.Operation

/-- An operation on the evaluated arguments of a call and the parameters of the whole message. -/
abbrev Handler := List Value → List Value → Value

structure Registry where
  handlers : Std.TreeMap String Handler

namespace Registry

def empty : Registry := ⟨∅⟩

instance : Inhabited Registry := ⟨empty⟩

/-- Adds an operation, in place of the one of the same name. -/
def insert (r : Registry) (name : String) (handler : Handler) : Registry :=
  ⟨r.handlers.insert (Text.lower name) handler⟩

def get? (r : Registry) (name : String) : Option Handler := r.handlers[Text.lower name]?

def contains (r : Registry) (name : String) : Bool := (r.get? name).isSome

/-- The names that were registered, in order. -/
def registered (r : Registry) : List String := r.handlers.keys

/-- The names of all operations that can be called, in order. -/
def names (r : Registry) : List String :=
  (Builtin.all.foldl (fun m b => m.insert b.name ()) (r.handlers.map fun _ _ => ())).keys

/-- The registered names as a text for people to read. -/
def describe (r : Registry) : String :=
  "OperationRegistry \x7b operations: " ++ Text.quotedList r.registered ++ " \x7d"

theorem get?_insert (r : Registry) (name other : String) (handler : Handler) :
    (r.insert name handler).get? other =
      if Text.lower name = Text.lower other then some handler else r.get? other := by
  simp [get?, insert, Std.TreeMap.getElem?_insert]

end Registry
end WikiMessage.Operation
