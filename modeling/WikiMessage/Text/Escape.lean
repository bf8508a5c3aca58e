/-!
# Text inside markup

The five characters that mean something to markup are written as character references, so that the
result can stand between tags and inside a quoted attribute value.
-/

namespace WikiMessage.Text

def escapeChar (c : Char) : List Char :=
  if c = '&' then "&amp;".toList
  else if c = '<' then "&lt;".toList
  else if c = '>' then "&gt;".toList
  else if c = '\x22' then "&quot;".toList
  else if c = '\x27' then "&#039;".toList
  else [c]

def escapeChars (cs : List Char) : List Char := cs.flatMap escapeChar

def escape (s : String) : String := String.ofList (escapeChars s.toList)

@[simp] theorem toList_escape (s : String) : (escape s).toList = escapeChars s.toList := by
  simp [escape]

@[simp] theorem escapeChars_nil : escapeChars [] = [] := rfl

@[simp] theorem escapeChars_cons (c : Char) (cs : List Char) :
    escapeChars (c :: cs) = escapeChar c ++ escapeChars cs := rfl

/-- No character that markup reads is left in escaped text. -/
theorem not_mem_escapeChars {c : Char} (h : c = '<' ∨ c = '>' ∨ c = '\x22' ∨ c = '\x27')
    (cs : List Char) : c ∉ escapeChars cs := by
  induction cs with
  | nil => simp
  | cons d cs ih =>
    rw [escapeChars_cons, List.mem_append, not_or]
    refine ⟨?_, ih⟩
    unfold escapeChar
    split
    · rcases h with rfl | rfl | rfl | rfl <;> decide
    split
    · rcases h with rfl | rfl | rfl | rfl <;> decide
    split
    · rcases h with rfl | rfl | rfl | rfl <;> decide
    split
    · rcases h with rfl | rfl | rfl | rfl <;> decide
    split
    · rcases h with rfl | rfl | rfl | rfl <;> decide
    · intro hc
      rw [List.mem_singleton] at hc
      subst hc
      rcases h with rfl | rfl | rfl | rfl <;> contradiction

end WikiMessage.Text
