import WikiMessage.Text.EditDistance

/-!
# Suggestions for a misspelt name

The available names within a small edit distance of the name, nearest first and then in the order
of the names, three of them at most. A short name allows one edit and a longer one two.
-/

namespace WikiMessage.Operation

def allowedDistance (key : String) : Nat := if key.length ≤ 3 then 1 else 2

/-- An available name and its distance from the key. -/
abbrev Scored := Nat × String

def Scored.le (a b : Scored) : Bool := a.1 < b.1 || (a.1 = b.1 && a.2 ≤ b.2)

def scored (key : String) (available : List String) : List Scored :=
  (available.map fun name => (Text.editDistance key.toList name.toList, name)).filter
    fun s => s.1 ≤ allowedDistance key

def suggestions (key : String) (available : List String) : List String :=
  (((scored key available).mergeSort Scored.le).take 3).map Prod.snd

end WikiMessage.Operation
