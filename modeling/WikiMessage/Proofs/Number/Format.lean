import WikiMessage.Proofs.Language.Data
import WikiMessage.Proofs.Number.Decimal
import WikiMessage.Proofs.Number.Script

/-!
# The characters of formatted numbers

A formatted number has nothing but digits and the marks of its language, and a number as it is
written without a language has digits, a sign and a point. So it opens no tag if no mark of a
language does.
-/

namespace WikiMessage

namespace Number

namespace Symbols

theorem mem_digit (s : Symbols) (c : Char) : s.digit c ∈ s.unsignedMarks ∨ s.digit c = c := by
  unfold digit
  cases hd : s.digits.toList[c.toNat - '0'.toNat]? with
  | none => exact .inr rfl
  | some e => exact .inl (List.mem_append_left _ (List.mem_of_getElem? hd))

theorem mem_grouped (s : Symbols) (upper : Nat) {cs : List Char} :
    ∀ c ∈ s.grouped upper cs, c ∈ s.unsignedMarks ∨ c ∈ cs := by
  induction cs with
  | nil => simp [grouped]
  | cons e cs ih =>
    have hd : s.digit e ∈ s.unsignedMarks ∨ s.digit e ∈ e :: cs := by
      rcases s.mem_digit e with h | h
      · exact .inl h
      · rw [h]
        exact .inr List.mem_cons_self
    have ht : ∀ c ∈ s.grouped upper cs, c ∈ s.unsignedMarks ∨ c ∈ e :: cs :=
      fun c hc => (ih c hc).imp_right (List.mem_cons_of_mem _)
    unfold grouped
    split
    · exact List.forall_mem_cons.mpr
        ⟨hd, List.forall_mem_cons.mpr ⟨.inl (by simp [unsignedMarks]), ht⟩⟩
    · exact List.forall_mem_cons.mpr ⟨hd, ht⟩

/-- A formatted number consists of its sign and of digits and separators of the language, but for
what is no digit. -/
theorem mem_format (s : Symbols) (d : Decimal) :
    ∀ c ∈ s.format d, c ∈ (s.signText d.sign).toList ∨ c ∈ s.unsignedMarks ∨
      c ∈ d.whole ++ d.fraction := by
  intro c hc
  rcases List.mem_append.mp hc with hc | hc
  · rcases List.mem_append.mp hc with hc | hc
    · exact .inl hc
    · exact .inr ((s.mem_grouped _ c hc).imp_right (List.mem_append_left _))
  · split at hc
    · cases hc
    · rcases List.mem_cons.mp hc with rfl | hc
      · exact .inr (.inl (by simp [unsignedMarks]))
      · obtain ⟨e, he, rfl⟩ := List.mem_map.mp hc
        rcases s.mem_digit e with h | h
        · exact .inr (.inl h)
        · rw [h]
          exact .inr (.inr (List.mem_append_right _ he))

theorem mem_signText (s : Symbols) (sign : Sign) : ∀ c ∈ (s.signText sign).toList, c ∈ s.marks := by
  intro c hc
  cases sign with
  | none => cases hc
  | plus => simp [marks, show c ∈ s.plus.toList from hc]
  | minus => simp [marks, show c ∈ s.minus.toList from hc]

end Symbols

theorem mem_swapDigit (digits others : List Char) (c : Char) :
    swapDigit digits others c ∈ others ∨ swapDigit digits others c = c := by
  unfold swapDigit
  split
  · rename_i i _
    cases ho : others[i]? with
    | none => exact .inr rfl
    | some e => exact .inl (List.mem_of_getElem? ho)
  · exact .inr rfl

theorem not_mem_toNativeChars {tag : String} {cs : List Char} (h : '<' ∉ cs) :
    '<' ∉ toNativeChars tag cs := by
  unfold toNativeChars
  split
  · rename_i digits hd
    intro hm
    obtain ⟨c, hc, he⟩ := List.mem_map.mp hm
    rcases mem_swapDigit latinDigits digits.toList c with hs | hs
    · cases (isScript_of_scriptDigits? hd).not_isAscii _ (he ▸ hs)
    · exact h ((hs.symm.trans he) ▸ hc)
  · exact h

theorem not_mem_format {source : SymbolSource} (ho : source.OpensNoTag) {number text : String}
    {tags : List String} (h : formatWith? source number tags = some text) : '<' ∉ text.toList := by
  obtain ⟨d, hd, rfl⟩ := Option.map_eq_some_iff.mp h
  have hi := Decimal.isDigits_of_read? hd
  split
  · rename_i s hs
    obtain ⟨t, -, ht⟩ := List.exists_of_findSome?_eq_some hs
    rw [String.toList_ofList]
    intro hm
    rcases s.mem_format d _ hm with hm | hm | hm
    · exact ho t s ht (s.mem_signText _ _ hm)
    · exact ho t s ht (List.mem_append_left _ hm)
    · rcases List.mem_append.mp hm with hm | hm
      · cases hi.whole _ hm
      · cases hi.fraction _ hm
  · rw [String.toList_ofList]
    exact not_mem_toNativeChars fun hm => by cases Decimal.isNumberChar_of_read? hd _ hm

end Number

namespace Numeral

/-- A character of numbers as they are written without a language: a digit, a sign, a point, or a
letter of the words for infinity and for what is no number. -/
def isWrittenChar (c : Char) : Bool := c.isDigit || "-.NaNinf".toList.contains c

theorem isWrittenChar_of_isDigit {c : Char} (h : c.isDigit = true) : isWrittenChar c = true := by
  simp only [isWrittenChar, h, Bool.true_or]

theorem isDigit_of_mem_digits {n : Nat} : ∀ c ∈ digits n, c.isDigit = true :=
  fun _ hc => Nat.isDigit_of_mem_toDigits (by decide) (by decide) hc

theorem not_mem_digits (n : Nat) : '<' ∉ digits n := by
  intro hm
  cases isDigit_of_mem_digits _ hm

theorem signedDigits_ne_nil (n : Int) : signedDigits n ≠ [] := by
  unfold signedDigits
  split
  · exact List.cons_ne_nil _ _
  · exact Nat.toDigits_ne_nil

theorem isWrittenChar_of_mem_signedDigits {n : Int} :
    ∀ c ∈ signedDigits n, isWrittenChar c = true := by
  have hd : ∀ c ∈ digits n.natAbs, isWrittenChar c = true :=
    fun c hc => isWrittenChar_of_isDigit (isDigit_of_mem_digits c hc)
  unfold signedDigits
  split
  · exact List.forall_mem_cons.mpr ⟨rfl, hd⟩
  · exact hd

namespace Double

theorem positional_ne_nil (p : Int) (point : Nat) : positional p point ≠ [] := by
  simp only [positional]
  split
  · exact List.append_ne_nil_of_left_ne_nil Nat.toDigits_ne_nil _
  · simp

theorem isWrittenChar_of_mem_positional {p : Int} {point : Nat} :
    ∀ c ∈ positional p point, isWrittenChar c = true := by
  have hp (k : Nat) : ∀ c ∈ List.replicate k '0' ++ digits point, isWrittenChar c = true := by
    intro c hc
    rcases List.mem_append.mp hc with hc | hc
    · rw [(List.mem_replicate.mp hc).2]
      rfl
    · exact isWrittenChar_of_isDigit (isDigit_of_mem_digits c hc)
  simp only [positional]
  split
  · intro c hc
    rcases List.mem_append.mp hc with hc | hc
    · exact hp 0 c hc
    · rw [(List.mem_replicate.mp hc).2]
      rfl
  · intro c hc
    rcases List.mem_append.mp hc with hc | hc
    · exact hp _ c (List.mem_of_mem_take hc)
    · rcases List.mem_cons.mp hc with rfl | hc
      · rfl
      · exact hp _ c (List.mem_of_mem_drop hc)

theorem toChars_ne_nil (x : Double) : x.toChars ≠ [] := by
  have hm (rank : Nat) : magnitudeText rank ≠ [] := by
    unfold magnitudeText
    split
    · exact List.cons_ne_nil _ _
    · exact positional_ne_nil _ _
  unfold toChars
  split
  · decide
  · decide
  · decide
  · exact List.cons_ne_nil _ _
  · exact hm _

theorem isWrittenChar_of_mem_toChars {x : Double} : ∀ c ∈ x.toChars, isWrittenChar c = true := by
  have hm (rank : Nat) : ∀ c ∈ magnitudeText rank, isWrittenChar c = true := by
    unfold magnitudeText
    split
    · exact List.all_eq_true.mp rfl
    · exact isWrittenChar_of_mem_positional
  unfold toChars
  split
  · exact List.all_eq_true.mp rfl
  · exact List.all_eq_true.mp rfl
  · exact List.all_eq_true.mp rfl
  · exact List.forall_mem_cons.mpr ⟨rfl, hm _⟩
  · exact hm _

end Double
end Numeral

namespace Value

/-- The text of a value that is no text itself. -/
theorem isWrittenChar_of_mem_toText {v : Value} (h : v.asString? = none) :
    ∀ c ∈ v.toText.toList, Numeral.isWrittenChar c = true := by
  cases v with
  | empty => simp
  | number n => simpa [toText, Numeral.signedText] using Numeral.isWrittenChar_of_mem_signedDigits
  | float x =>
    simpa [toText, Numeral.Double.toText] using Numeral.Double.isWrittenChar_of_mem_toChars
  | string s => cases h

/-- Nothing to work on is the empty text, as numbers are never written without a character. -/
theorem isEmpty_eq (v : Value) : v.isEmpty = v.toText.isEmpty := by
  have hf {cs : List Char} (h : cs ≠ []) : false = (String.ofList cs).isEmpty := by
    rw [eq_comm, ← Bool.not_eq_true, String.isEmpty_iff]
    exact fun he => h (String.ofList_inj.mp he)
  cases v with
  | number n => exact hf (Numeral.signedDigits_ne_nil n)
  | float x => exact hf x.toChars_ne_nil
  | _ => rfl

theorem not_mem_toText {v : Value} (h : v.asString? = none) : '<' ∉ v.toText.toList := by
  intro hm
  cases isWrittenChar_of_mem_toText h _ hm

end Value

end WikiMessage
