/-!
# Reading rules

A rule reads the beginning of a text and gives what it read and the rest, or fails. Repetition is
bounded by the length of the text, which is always enough for a rule that reads something.
-/

namespace WikiMessage.Text

/-- What a rule read from the beginning of a text, and the rest. -/
abbrev Rule (α : Type) := List Char → Option (α × List Char)

namespace Rule

/-- A rule applied again and again, at most as often as the bound says. -/
def many {α : Type} (rule : Rule α) : Nat → List Char → List α × List Char
  | 0, cs => ([], cs)
  | bound + 1, cs =>
    match rule cs with
    | none => ([], cs)
    | some (a, rest) =>
      let (as, left) := many rule bound rest
      (a :: as, left)

/-- A rule applied as often as it succeeds. -/
def repeated {α : Type} (rule : Rule α) (cs : List Char) : List α × List Char :=
  many rule cs.length cs

/-- A rule applied as often as it succeeds, at least once. -/
def repeated1 {α : Type} (rule : Rule α) : Rule (List α) := fun cs =>
  match repeated rule cs with
  | ([], _) => none
  | (as, rest) => some (as, rest)

/-- The characters that a rule read, from the text before and the rest after it. -/
def taken (cs rest : List Char) : List Char := cs.take (cs.length - rest.length)

end Rule
end WikiMessage.Text
