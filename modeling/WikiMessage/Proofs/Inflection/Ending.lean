import Mathlib.Data.List.Infix
import Mathlib.Data.List.Nodup
import WikiMessage.Inflection.Ending

/-!
# Replacing the longest ending

A word has an ending whatever the case of its letters A to Z. Of the endings of a list that a word
has, the longest is the one that declining it replaces.
-/

namespace WikiMessage.Inflection

/-- The word ends so when the case of A to Z does not count. -/
def HasEnding (word ending : List Char) : Prop := ending <:+ word.map Char.toLower

instance (word ending : List Char) : Decidable (HasEnding word ending) :=
  inferInstanceAs (Decidable (_ <:+ _))

/-- An ending of a word, what takes its place in the end, and the number of steps it takes. -/
structure Ending where
  ending : List Char
  replacement : List Char
  steps : Nat
  deriving DecidableEq

namespace Ending

/-- The word with another end of the same length as the ending. -/
def rewrite (e : Ending) (word : List Char) : List Char :=
  word.take (word.length - e.ending.length) ++ e.replacement

/-- The ending that is turned into a later one, which is replaced in its turn. -/
def andThen? (e later : Ending) : Option Ending :=
  (Text.dropEnd? e.replacement later.ending).map fun front =>
    ⟨front ++ e.ending, later.replacement, later.steps + 1⟩

end Ending

section

variable {word : List Char} {e e' : Ending}

theorem HasEnding.exists_append (h : HasEnding word e.ending) :
    ∃ stem tail, word = stem ++ tail ∧ tail.map Char.toLower = e.ending ∧
      e.rewrite word = stem ++ e.replacement := by
  obtain ⟨start, hs⟩ := h
  obtain ⟨stem, tail, rfl, rfl, ht⟩ := List.map_eq_append_iff.mp hs.symm
  refine ⟨stem, tail, rfl, ht, ?_⟩
  rw [Ending.rewrite, ← ht]
  simp

/-- An ending that contains the replacement is one that contained what it replaces. -/
theorem hasEnding_rewrite_iff (h : HasEnding word e.ending)
    (hr : e.replacement.map Char.toLower = e.replacement) {front : List Char} :
    HasEnding (e.rewrite word) (front ++ e.replacement) ↔
      HasEnding word (front ++ e.ending) := by
  obtain ⟨stem, tail, rfl, ht, he⟩ := h.exists_append
  rw [he, HasEnding, HasEnding, List.map_append, List.map_append, hr, ht,
    List.suffix_append_self_iff, List.suffix_append_self_iff]

/-- An ending of the rewritten word that the replacement does not have begins in front of it. -/
theorem HasEnding.exists_front (h : HasEnding word e.ending)
    (hr : e.replacement.map Char.toLower = e.replacement) {ending : List Char}
    (he : HasEnding (e.rewrite word) ending) (hn : ¬ending <:+ e.replacement) :
    ∃ front, ending = front ++ e.replacement ∧ HasEnding word (front ++ e.ending) := by
  have hrep : HasEnding (e.rewrite word) e.replacement := by
    rw [← List.nil_append e.replacement, hasEnding_rewrite_iff h hr]
    exact h
  rcases List.suffix_or_suffix_of_suffix he hrep with hs | ⟨front, rfl⟩
  · exact absurd hs hn
  · exact ⟨front, rfl, (hasEnding_rewrite_iff h hr).mp he⟩

/-- Two rewritings one after the other are one. -/
theorem rewrite_rewrite {later : Ending} (h : HasEnding word e.ending) {front : List Char}
    (hl : later.ending = front ++ e.replacement) (hw : HasEnding word (front ++ e.ending)) (n : Nat) :
    later.rewrite (e.rewrite word) =
      Ending.rewrite ⟨front ++ e.ending, later.replacement, n⟩ word := by
  have hlen := hw.length_le
  obtain ⟨stem, tail, rfl, ht, he⟩ := h.exists_append
  have htl : tail.length = e.ending.length := by rw [← ht, List.length_map]
  rw [he, Ending.rewrite, Ending.rewrite, hl]
  simp only [List.length_append, htl, List.length_map] at hlen ⊢
  rw [Nat.add_sub_add_right, Nat.add_sub_add_right, List.take_append_of_le_length (by omega),
    List.take_append_of_le_length (by omega)]

/-- Of endings of one length a word has one at most. -/
theorem HasEnding.eq_of_length {ending ending' : List Char} (h : HasEnding word ending)
    (h' : HasEnding word ending') (hl : ending.length = ending'.length) : ending = ending' :=
  (List.suffix_of_suffix_length_le h h' hl.le).eq_of_length hl

theorem andThen?_eq_some_iff {later c : Ending} : e.andThen? later = some c ↔
    ∃ front, later.ending = front ++ e.replacement ∧
      c = ⟨front ++ e.ending, later.replacement, later.steps + 1⟩ := by
  simp only [Ending.andThen?, Option.map_eq_some_iff, Text.dropEnd?_eq_some]
  exact exists_congr fun front => and_congr_right fun _ => eq_comm

theorem replaceEndAnyCase?_eq (word : List Char) (ending replacement : String) (n : Nat) :
    replaceEndAnyCase? word ending replacement =
      if HasEnding word ending.toList then
        some (Ending.rewrite ⟨ending.toList, replacement.toList, n⟩ word) else none := by
  have hl : (word.take (word.length - ending.length)).length = word.length - ending.length := by
    rw [List.length_take]
    omega
  simp only [replaceEndAnyCase?, hl, HasEnding, List.suffix_iff_eq_drop, List.length_map,
    String.length_toList, List.map_drop, Ending.rewrite, eq_comm]

end

/-- The ending is the longest of those listed that the word has. -/
structure IsLongest (endings : List Ending) (word : List Char) (e : Ending) : Prop where
  mem : e ∈ endings
  hasEnding : HasEnding word e.ending
  length_le : ∀ e' ∈ endings, HasEnding word e'.ending → e'.ending.length ≤ e.ending.length

/-- The longest of the listed endings is replaced, and nothing if the word has none of them. -/
inductive Declines (endings : List Ending) (word : List Char) : List Char → Nat → Prop
  | replaced {e : Ending} (h : IsLongest endings word e) :
      Declines endings word (e.rewrite word) e.steps
  | unchanged (h : ∀ e ∈ endings, ¬HasEnding word e.ending) : Declines endings word word 0

section

variable {word result : List Char} {n : Nat} {e : Ending}

/-- Only endings that the word has matter. -/
theorem Declines.congr {endings endings' : List Ending}
    (h : ∀ e, HasEnding word e.ending → (e ∈ endings ↔ e ∈ endings'))
    (hd : Declines endings word result n) : Declines endings' word result n := by
  cases hd with
  | replaced hl =>
    refine .replaced ⟨(h _ hl.hasEnding).mp hl.mem, hl.hasEnding, fun e' hm he => ?_⟩
    exact hl.length_le e' ((h e' he).mpr hm) he
  | unchanged hn => exact .unchanged fun e hm he => hn e ((h e he).mpr hm) he

theorem Declines.eq_of_isLongest {endings : List Ending} (hd : Declines endings word result n)
    (hn : (endings.map (·.ending)).Nodup) (hl : IsLongest endings word e) :
    result = e.rewrite word ∧ n = e.steps := by
  cases hd with
  | @replaced e' h =>
    have hlen := Nat.le_antisymm (hl.length_le e' h.mem h.hasEnding)
      (h.length_le e hl.mem hl.hasEnding)
    obtain rfl := List.inj_on_of_nodup_map hn h.mem hl.mem
      (h.hasEnding.eq_of_length hl.hasEnding hlen)
    exact ⟨rfl, rfl⟩
  | unchanged h => exact absurd hl.hasEnding (h e hl.mem)

theorem Declines.eq_of_forall_not {endings : List Ending} (hd : Declines endings word result n)
    (h : ∀ e ∈ endings, ¬HasEnding word e.ending) : result = word ∧ n = 0 := by
  cases hd with
  | replaced hl => exact absurd hl.hasEnding (h _ hl.mem)
  | unchanged _ => exact ⟨rfl, rfl⟩

end

end WikiMessage.Inflection
