/-!
# Beginnings, ends and parts of a text

What is left of a list of characters when a given beginning or end is taken off, where it is first
cut, whether it holds a given part and what stands behind it, and where its first characters of a
class end.
-/

namespace WikiMessage.Text

/-- The text after `start`, if the text begins with it. -/
def dropStart? : List Char → List Char → Option (List Char)
  | [], cs => some cs
  | _ :: _, [] => none
  | p :: start, c :: cs => if p = c then dropStart? start cs else none

/-- The text before `ending`, if the text ends with it. -/
def dropEnd? (ending cs : List Char) : Option (List Char) :=
  (dropStart? ending.reverse cs.reverse).map List.reverse

/-- The text before the first character `mark` and the text after it, if there is one. -/
def cutAt? (mark : Char) : List Char → Option (List Char × List Char)
  | [] => none
  | c :: cs =>
    if c = mark then some ([], cs) else (cutAt? mark cs).map fun p => (c :: p.1, p.2)

/-- Whether `part` stands anywhere in the text. -/
def occursIn (part : List Char) : List Char → Bool
  | [] => part.isEmpty
  | c :: cs => (dropStart? part (c :: cs)).isSome || occursIn part cs

/-- What stands behind each occurrence of `part`, from left to right, where the next one is looked
for only behind the one before. The first characters, so many of them, are passed over. -/
def restsBehind (part : List Char) : Nat → List Char → List (List Char)
  | _, [] => []
  | skip + 1, _ :: cs => restsBehind part skip cs
  | 0, c :: cs =>
    match dropStart? part (c :: cs) with
    | some rest => rest :: restsBehind part (part.length - 1) cs
    | none => restsBehind part 0 cs

/-- A text begins with characters of a class, and the class ends there. -/
theorem span_iff {p : Char → Bool} {cs word rest : List Char} :
    cs.takeWhile p = word ∧ cs.dropWhile p = rest ↔
      cs = word ++ rest ∧ (∀ c ∈ word, p c = true) ∧ ∀ c ∈ rest.head?, p c = false := by
  constructor
  · rintro ⟨rfl, rfl⟩
    refine ⟨List.takeWhile_append_dropWhile.symm, List.all_eq_true.mp List.all_takeWhile, ?_⟩
    intro c hc
    have h := List.head?_dropWhile_not p cs
    rw [Option.mem_def.mp hc] at h
    simpa using h
  · rintro ⟨rfl, hw, hr⟩
    have hn : rest.takeWhile p = [] ∧ rest.dropWhile p = rest := by
      cases rest with
      | nil => exact ⟨rfl, rfl⟩
      | cons c rest => simp [hr c rfl]
    rw [List.takeWhile_append_of_pos hw, List.dropWhile_append_of_pos hw, hn.1, hn.2]
    simp

theorem dropStart?_eq_some {start cs rest : List Char} :
    dropStart? start cs = some rest ↔ cs = start ++ rest := by
  induction start generalizing cs with
  | nil => simp [dropStart?, eq_comm]
  | cons p start ih =>
    cases cs with
    | nil => simp [dropStart?]
    | cons c cs =>
      by_cases h : p = c
      · simp [dropStart?, h, ih]
      · simp [dropStart?, h, Ne.symm h]

theorem dropEnd?_eq_some {ending cs rest : List Char} :
    dropEnd? ending cs = some rest ↔ cs = rest ++ ending := by
  simp only [dropEnd?, Option.map_eq_some_iff, dropStart?_eq_some]
  constructor
  · rintro ⟨a, h, rfl⟩
    have := congrArg List.reverse h
    simpa using this
  · rintro rfl
    exact ⟨rest.reverse, by simp, by simp⟩

theorem cutAt?_eq_some {mark : Char} {cs before after : List Char} :
    cutAt? mark cs = some (before, after) ↔ mark ∉ before ∧ cs = before ++ mark :: after := by
  induction cs generalizing before with
  | nil => simp [cutAt?]
  | cons c cs ih =>
    cases before with
    | nil =>
      by_cases h : c = mark
      · simp [cutAt?, h]
      · simp [cutAt?, h]
    | cons b before =>
      by_cases h : c = mark
      · simp only [cutAt?, h, if_pos, List.cons_append]
        constructor
        · intro he
          simp at he
        · rintro ⟨hn, he⟩
          injection he with h1 _
          exact absurd (h1 ▸ List.mem_cons_self) hn
      · simp only [cutAt?, h, if_false, Option.map_eq_some_iff, List.cons_append, List.mem_cons]
        constructor
        · rintro ⟨⟨b', a'⟩, hc, he⟩
          injection he with h1 h2
          injection h1 with h3 h4
          subst h3 h4 h2
          obtain ⟨hn, hs⟩ := ih.1 hc
          exact ⟨fun hm => hm.elim (fun e => h e.symm) hn, by rw [hs]⟩
        · rintro ⟨hn, he⟩
          injection he with h1 h2
          subst h1
          exact ⟨(before, after), ih.2 ⟨fun hm => hn (.inr hm), h2⟩, rfl⟩

/-- A part occurs exactly when the text is something, the part, and something. -/
theorem occursIn_iff {part cs : List Char} :
    occursIn part cs = true ↔ ∃ before after, cs = before ++ part ++ after := by
  induction cs with
  | nil => simp [occursIn, List.isEmpty_iff]
  | cons c cs ih =>
    simp only [occursIn, Bool.or_eq_true, Option.isSome_iff_exists, dropStart?_eq_some, ih]
    constructor
    · rintro (⟨rest, h⟩ | ⟨before, after, h⟩)
      · exact ⟨[], rest, by simpa using h⟩
      · exact ⟨c :: before, after, by simp [h]⟩
    · rintro ⟨before, after, h⟩
      cases before with
      | nil => exact .inl ⟨after, by simpa using h⟩
      | cons b before =>
        simp only [List.cons_append] at h
        injection h with _ h
        exact .inr ⟨before, after, h⟩

end WikiMessage.Text
