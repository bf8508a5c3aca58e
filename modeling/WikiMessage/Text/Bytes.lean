/-!
# Texts in bytes

The size of a text in bytes, and the parts of it before and after some number of them.
-/

namespace WikiMessage.Text

/-- The number of bytes of a text in UTF-8. -/
def byteCount : List Char → Nat
  | [] => 0
  | c :: cs => c.utf8Size + byteCount cs

@[simp] theorem byteCount_nil : byteCount [] = 0 := rfl

@[simp] theorem byteCount_cons (c : Char) (cs : List Char) :
    byteCount (c :: cs) = c.utf8Size + byteCount cs := rfl

theorem byteCount_append (cs ds : List Char) :
    byteCount (cs ++ ds) = byteCount cs + byteCount ds := by
  induction cs with
  | nil => simp
  | cons c cs ih => simp only [List.cons_append, byteCount_cons, ih, Nat.add_assoc]

theorem byteCount_eq_utf8ByteSize (cs : List Char) :
    byteCount cs = (String.ofList cs).utf8ByteSize := by
  induction cs with
  | nil => simp
  | cons c cs ih =>
    rw [byteCount_cons, ih, ← List.singleton_append, String.ofList_append,
      String.utf8ByteSize_append]
    simp

/-- The parts of a text before and after so many bytes. There are none if the text has less, or if
the bytes end inside a character. -/
def splitBytes? : Nat → List Char → Option (List Char × List Char)
  | 0, cs => some ([], cs)
  | _ + 1, [] => none
  | n + 1, c :: cs =>
    if c.utf8Size ≤ n + 1 then
      (splitBytes? (n + 1 - c.utf8Size) cs).map fun (before, after) => (c :: before, after)
    else none

theorem splitBytes?_append (before after : List Char) :
    splitBytes? (byteCount before) (before ++ after) = some (before, after) := by
  induction before with
  | nil => rw [byteCount_nil, List.nil_append, splitBytes?]
  | cons c before ih =>
    obtain ⟨n, hn⟩ := Nat.exists_eq_add_of_lt (Nat.add_pos_left c.utf8Size_pos (byteCount before))
    have hs : byteCount (c :: before) = n + 1 := by
      rw [byteCount_cons, hn]
      omega
    have hl : c.utf8Size ≤ n + 1 := hs ▸ Nat.le_add_right _ _
    have hb : n + 1 - c.utf8Size = byteCount before := by
      rw [← hs, byteCount_cons, Nat.add_sub_cancel_left]
    rw [hs, List.cons_append, splitBytes?, if_pos hl, hb, ih]
    rfl

end WikiMessage.Text
