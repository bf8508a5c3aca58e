import WikiMessage.Json.Read
import WikiMessage.Numeral.Digits
import WikiMessage.Proofs.Text.Repetition
import WikiMessage.Text.Affix
import WikiMessage.Text.Escape

/-!
# Character references

A page is read with its character references replaced by the characters that they stand for. How
many names of characters a reader knows does not matter here, only that it reads escaped text as the
text that was escaped.
-/

namespace WikiMessage.Text

/-- A reader of text in markup that undoes escaping. -/
structure Decoder where
  decode : List Char → List Char
  decode_escapeChars (cs : List Char) : decode (escapeChars cs) = cs

def charOf? (n : Nat) : Option Char := if n.isValidChar then some (Char.ofNat n) else none

/-- The value of digits to the base sixteen, if they are such. -/
def hexValue? (ds : List Char) : Option Nat :=
  (ds.mapM Json.hexValue?).map fun ns => ns.foldl (fun n d => 16 * n + d) 0

/-- The character of a number after `#`, which is hexadecimal after `x`. -/
def numberedChar? : List Char → Option Char
  | [] => none
  | x :: ds =>
    if x = 'x' || x = 'X' then if ds.isEmpty then none else (hexValue? ds).bind charOf?
    else if Numeral.isDigits (x :: ds) then charOf? (Numeral.value (x :: ds))
    else none

/-- The character of a reference, given what stands between `&` and `;`. -/
def referent? : List Char → Option Char
  | '#' :: ds => numberedChar? ds
  | name =>
    match String.ofList name with
    | "amp" => some '&'
    | "lt" => some '<'
    | "gt" => some '>'
    | "quot" => some '\x22'
    | "apos" => some '\x27'
    | _ => none

def reference : Rule Char
  | [] => none
  | c :: cs =>
    if c = '&' then do
      let (name, rest) ← cutAt? ';' cs
      let referent ← referent? name
      some (referent, rest)
    else none

/-- A character, or the reference that stands for it. -/
def referencedChar : Rule Char
  | [] => none
  | c :: cs => (reference (c :: cs)).or (some (c, cs))

theorem reference_eq_some_iff {cs rest : List Char} {c : Char} :
    reference cs = some (c, rest) ↔
      ∃ name, cs = '&' :: name ++ ';' :: rest ∧ ';' ∉ name ∧ referent? name = some c := by
  cases cs with
  | nil => simp [reference]
  | cons d cs =>
    simp only [reference, Option.ite_none_right_eq_some, Option.bind_eq_bind,
      Option.bind_eq_some_iff, Prod.exists, cutAt?_eq_some, Option.some.injEq, Prod.mk.injEq,
      List.cons_append, List.cons.injEq]
    constructor
    · rintro ⟨rfl, name, left, ⟨hn, rfl⟩, c', hc, rfl, rfl⟩
      exact ⟨name, ⟨rfl, rfl⟩, hn, hc⟩
    · rintro ⟨name, ⟨rfl, rfl⟩, hn, hc⟩
      exact ⟨rfl, name, rest, ⟨hn, rfl⟩, c, hc, rfl, rfl⟩

theorem advances_referencedChar : Rule.Advances referencedChar := by
  intro cs c rest h
  cases cs with
  | nil => cases h
  | cons d cs =>
    rcases Option.or_eq_some_iff.mp h with h | ⟨-, h⟩
    · obtain ⟨name, he, -⟩ := reference_eq_some_iff.mp h
      rw [he]
      exact ⟨(List.suffix_cons _ _).trans (List.suffix_append _ _), by simp; omega⟩
    · cases h
      exact ⟨List.suffix_cons _ _, by simp⟩

theorem referencedChar_of_referent {name : List Char} {c : Char} (hn : ';' ∉ name)
    (hc : referent? name = some c) (rest : List Char) :
    referencedChar ('&' :: name ++ ';' :: rest) = some (c, rest) := by
  rw [List.cons_append, referencedChar, Option.or_eq_some_iff]
  exact .inl (reference_eq_some_iff.mpr ⟨name, rfl, hn, hc⟩)

theorem referencedChar_escapeChar (c : Char) (rest : List Char) :
    referencedChar (escapeChar c ++ rest) = some (c, rest) := by
  unfold escapeChar
  split
  · rename_i h
    exact h ▸ @referencedChar_of_referent "amp".toList '&' (by decide) rfl rest
  split
  · rename_i h
    exact h ▸ @referencedChar_of_referent "lt".toList '<' (by decide) rfl rest
  split
  · rename_i h
    exact h ▸ @referencedChar_of_referent "gt".toList '>' (by decide) rfl rest
  split
  · rename_i h
    exact h ▸ @referencedChar_of_referent "quot".toList '\x22' (by decide) rfl rest
  split
  · rename_i h
    exact h ▸ @referencedChar_of_referent "#039".toList '\x27' (by decide) rfl rest
  · rename_i h _ _ _ _
    rw [List.cons_append, List.nil_append, referencedChar, reference, if_neg h, Option.none_or]

theorem run_escapeChars (cs : List Char) : Rule.Run referencedChar (escapeChars cs) cs [] := by
  induction cs with
  | nil => exact .stop rfl
  | cons c cs ih => exact .step (referencedChar_escapeChar c (escapeChars cs)) ih

/-- Reading the references by number and the five names that markup of every kind has. -/
def Decoder.basic : Decoder where
  decode cs := (Rule.repeated referencedChar cs).1
  decode_escapeChars cs := by
    rw [(Rule.repeated_eq_iff advances_referencedChar).mpr (run_escapeChars cs)]

example : Decoder.basic.decode "&#x55;rl(&quot;&unknown;".toList = "Url(\"&unknown;".toList := by
  decide

end WikiMessage.Text
