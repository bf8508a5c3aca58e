import Std.Data.TreeMap
import WikiMessage.Locale.Tag

/-!
# Fallback chains

A table lists for a locale the locales to try in its place. The chain of a locale is the locale
itself and its truncations, then what the table lists for it, and last one final fallback.
-/

namespace WikiMessage.Locale

/-- Fallback lists by normal tag. -/
structure FallbackTable where
  lists : Std.TreeMap String (List String)

namespace FallbackTable

def empty : FallbackTable := ⟨∅⟩

instance : Inhabited FallbackTable := ⟨empty⟩

/-- Adds the list of a tag, in place of the list it had. -/
def insert (table : FallbackTable) (tag : String) (others : List String) :
    FallbackTable :=
  ⟨table.lists.insert (normalize tag) others⟩

def ofEntries (entries : List (String × List String)) : FallbackTable :=
  entries.foldl (fun table (tag, others) => table.insert tag others) empty

def get (table : FallbackTable) (tag : String) : List String :=
  table.lists[normalize tag]?.getD []

def size (table : FallbackTable) : Nat := table.lists.size

def entries (table : FallbackTable) : List (String × List String) := table.lists.toList

/-- The locales to try for `locale`, in order; the last one is `final`. -/
def chain (table : FallbackTable) (final locale : String) : List String :=
  truncations locale ++ table.get locale ++ [final]

theorem get_insert (table : FallbackTable) (tag other : String) (others : List String) :
    (table.insert tag others).get other =
      if normalize tag = normalize other then others else table.get other := by
  simp only [get, insert, Std.TreeMap.getElem?_insert, Std.LawfulEqCmp.compare_eq_iff_eq]
  split <;> rfl

end FallbackTable

/-- The final fallback unless another is chosen. -/
def defaultFinal : String := "en"

end WikiMessage.Locale
