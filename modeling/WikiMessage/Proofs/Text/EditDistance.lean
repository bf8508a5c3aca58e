import Mathlib.Order.Bounds.Defs
import WikiMessage.Text.EditDistance

/-!
# The least number of edits

One edit inserts, deletes or replaces a character at any place of a text. The table's entry is the
number of some sequence of edits between two texts, and one more edit changes it by one at most. So
it is the least number of edits that turn one text into the other.
-/

namespace WikiMessage.Text

/-- One character is inserted, deleted or replaced. -/
inductive Edit : List Char → List Char → Prop
  | insert (before : List Char) (c : Char) (after : List Char) :
      Edit (before ++ after) (before ++ c :: after)
  | delete (before : List Char) (c : Char) (after : List Char) :
      Edit (before ++ c :: after) (before ++ after)
  | replace (before : List Char) (c d : Char) (after : List Char) :
      Edit (before ++ c :: after) (before ++ d :: after)

/-- So many edits one after another. -/
inductive Edits : Nat → List Char → List Char → Prop
  | none {xs : List Char} : Edits 0 xs xs
  | more {n : Nat} {xs ys zs : List Char} (h : Edits n xs ys) (e : Edit ys zs) : Edits (n + 1) xs zs

variable {xs ys zs : List Char} {m n : Nat}

theorem Edit.cons (h : Edit xs ys) (c : Char) : Edit (c :: xs) (c :: ys) := by
  cases h with
  | insert before d after => exact .insert (c :: before) d after
  | delete before d after => exact .delete (c :: before) d after
  | replace before d e after => exact .replace (c :: before) d e after

theorem Edits.cons (h : Edits n xs ys) (c : Char) : Edits n (c :: xs) (c :: ys) := by
  induction h with
  | none => exact .none
  | more h e ih => exact .more ih (e.cons c)

theorem Edits.insert (h : Edits n xs ys) (c : Char) : Edits (n + 1) xs (c :: ys) :=
  h.more (.insert [] c ys)

/-- A character in front of the first text is deleted after all other edits. -/
theorem Edits.delete (h : Edits n xs ys) (c : Char) : Edits (n + 1) (c :: xs) ys :=
  (h.cons c).more (.delete [] c ys)

theorem Edits.replace (h : Edits n xs ys) (c d : Char) : Edits (n + 1) (c :: xs) (d :: ys) :=
  (h.cons c).more (.replace [] c d ys)

namespace EditDistance

/-- The row for a tail of the second text stands behind the first entry. -/
theorem tail_row (y : Char) (ys xs : List Char) : (row (y :: ys) xs).tail = row ys xs := by
  induction xs with
  | nil => simp [row, List.range_succ]
  | cons x xs ih => rw [row, nextRow, List.tail_cons, ih, row]

end EditDistance

open EditDistance

theorem editDistance_nil_right (xs : List Char) : editDistance xs [] = xs.length := by
  induction xs with
  | nil => rfl
  | cons x xs ih =>
    rw [editDistance] at ih ⊢
    rw [row, nextRow, List.headD_cons, ih, List.length_cons]

theorem editDistance_cons_cons (x y : Char) (xs ys : List Char) :
    editDistance (x :: xs) (y :: ys) =
      min (if x = y then editDistance xs ys else editDistance xs ys + 1)
        (min (editDistance xs (y :: ys)) (editDistance (x :: xs) ys) + 1) := by
  simp only [editDistance]
  rw [row, nextRow, List.headD_cons, tail_row, row]

theorem Edits.min (h : Edits m xs ys) (h' : Edits n xs ys) : Edits (min m n) xs ys := by
  rw [Nat.min_def]
  split
  · exact h
  · exact h'

theorem edits_editDistance (xs ys : List Char) : Edits (editDistance xs ys) xs ys := by
  induction xs generalizing ys with
  | nil =>
    rw [editDistance_nil_left]
    induction ys with
    | nil => exact .none
    | cons y ys ih => exact ih.insert y
  | cons x xs ihx =>
    induction ys with
    | nil =>
      have h := (ihx []).delete x
      rwa [editDistance_nil_right] at h ⊢
    | cons y ys ihy =>
      have hm : Edits (if x = y then editDistance xs ys else editDistance xs ys + 1) (x :: xs)
          (y :: ys) := by
        split
        · rename_i he
          exact he ▸ (ihx ys).cons x
        · exact (ihx ys).replace x y
      have hd := (ihx (y :: ys)).delete x
      have hi := ihy.insert y
      rw [editDistance_cons_cons, ← Nat.add_min_add_right]
      exact hm.min (hd.min hi)

theorem editDistance_self (xs : List Char) : editDistance xs xs = 0 := by
  induction xs with
  | nil => rfl
  | cons x xs ih => rw [editDistance_cons_cons, if_pos rfl, ih, Nat.zero_min]

theorem editDistance_cons_left_le (x : Char) (xs ys : List Char) :
    editDistance (x :: xs) ys ≤ editDistance xs ys + 1 := by
  cases ys with
  | nil => simp only [editDistance_nil_right, List.length_cons, Nat.le_refl]
  | cons y ys =>
    rw [editDistance_cons_cons]
    omega

theorem editDistance_insert_le (xs : List Char) (y : Char) (ys : List Char) :
    editDistance xs (y :: ys) ≤ editDistance xs ys + 1 := by
  cases xs with
  | nil => simp only [editDistance_nil_left, List.length_cons, Nat.le_refl]
  | cons x xs =>
    rw [editDistance_cons_cons]
    omega

theorem editDistance_delete_le (xs : List Char) (y : Char) (ys : List Char) :
    editDistance xs ys ≤ editDistance xs (y :: ys) + 1 := by
  induction xs with
  | nil =>
    simp only [editDistance_nil_left, List.length_cons]
    omega
  | cons x xs ih =>
    have hx := editDistance_cons_left_le x xs ys
    rw [editDistance_cons_cons]
    split <;> omega

theorem editDistance_replace_le (xs : List Char) (y z : Char) (ys : List Char) :
    editDistance xs (z :: ys) ≤ editDistance xs (y :: ys) + 1 := by
  induction xs with
  | nil => simp only [editDistance_nil_left, List.length_cons, Nat.le_add_right]
  | cons x xs ih =>
    rw [editDistance_cons_cons, editDistance_cons_cons]
    split <;> split <;> omega

/-- What an edit of the tails makes of distances it makes of distances to the whole texts. -/
theorem editDistance_cons_right_le (h : ∀ xs, editDistance xs zs ≤ editDistance xs ys + 1)
    (c : Char) (xs : List Char) : editDistance xs (c :: zs) ≤ editDistance xs (c :: ys) + 1 := by
  induction xs with
  | nil =>
    have hn := h []
    simp only [editDistance_nil_left, List.length_cons] at hn ⊢
    omega
  | cons x xs ih =>
    have hs := h xs
    have hx := h (x :: xs)
    rw [editDistance_cons_cons, editDistance_cons_cons]
    split <;> omega

theorem editDistance_append_right_le (h : ∀ xs, editDistance xs zs ≤ editDistance xs ys + 1)
    (before xs : List Char) :
    editDistance xs (before ++ zs) ≤ editDistance xs (before ++ ys) + 1 := by
  induction before generalizing xs with
  | nil => exact h xs
  | cons c before ih => exact editDistance_cons_right_le ih c xs

/-- One more edit makes no distance greater by more than one. -/
theorem editDistance_le_of_edit (h : Edit ys zs) (xs : List Char) :
    editDistance xs zs ≤ editDistance xs ys + 1 := by
  cases h with
  | insert before c after =>
    exact editDistance_append_right_le (editDistance_insert_le · c after) before xs
  | delete before c after =>
    exact editDistance_append_right_le (editDistance_delete_le · c after) before xs
  | replace before c d after =>
    exact editDistance_append_right_le (editDistance_replace_le · c d after) before xs

theorem editDistance_le_of_edits (h : Edits n xs ys) : editDistance xs ys ≤ n := by
  induction h with
  | none => exact Nat.le_of_eq (editDistance_self _)
  | more h e ih => exact Nat.le_trans (editDistance_le_of_edit e _) (Nat.succ_le_succ ih)

/-- The edit distance is the least number of edits that turn one text into the other. -/
theorem isLeast_editDistance (xs ys : List Char) :
    IsLeast {n | Edits n xs ys} (editDistance xs ys) :=
  ⟨edits_editDistance xs ys, fun _ h => editDistance_le_of_edits h⟩

end WikiMessage.Text
