import WikiMessage.Number.Decimal

/-!
# What decimal numbers are made of

A decimal number that was read has digits of ASCII only, wherever its point was moved to, and the
text it was read from has nothing but digits, signs, a point and the mark of an exponent.
-/

namespace WikiMessage

/-- An entry of a list or else a default has what all entries and the default have. -/
theorem forall_getElem?_getD {α : Type} {P : α → Prop} {l : List α} {a : α} (h : ∀ b ∈ l, P b)
    (ha : P a) (i : Nat) : P (l[i]?.getD a) := by
  cases hb : l[i]? with
  | none => exact ha
  | some b => exact h b (List.mem_of_getElem? hb)

namespace Number.Decimal

open Numeral (splitFraction)

structure IsDigits (d : Decimal) : Prop where
  whole : ∀ c ∈ d.whole, c.isDigit = true
  fraction : ∀ c ∈ d.fraction, c.isDigit = true

theorem isDigit_digitAt {d : Decimal} (h : d.IsDigits) (power : Int) :
    (d.digitAt power).isDigit = true := by
  unfold digitAt
  split
  · have hw : ∀ c ∈ d.whole.reverse, c.isDigit = true :=
      fun c hc => h.whole c (List.mem_reverse.mp hc)
    exact forall_getElem?_getD (P := fun c : Char => c.isDigit = true) hw rfl _
  · exact forall_getElem?_getD (P := fun c : Char => c.isDigit = true) h.fraction rfl _

theorem isDigits_shown {d : Decimal} (h : d.IsDigits) (shift upper lower : Int) :
    (d.shown shift upper lower).IsDigits := by
  constructor
  · intro c hc
    obtain ⟨k, -, rfl⟩ := List.mem_map.mp hc
    exact isDigit_digitAt h _
  · intro c hc
    obtain ⟨k, -, rfl⟩ := List.mem_map.mp hc
    exact isDigit_digitAt h _

theorem isDigits_scale? {d e : Decimal} {shift : Int} (h : d.IsDigits)
    (hs : d.scale? shift = some e) : e.IsDigits := by
  unfold scale? at hs
  split at hs
  · obtain rfl := Option.some.inj hs
    exact h
  · split at hs
    · obtain rfl := Option.some.inj hs
      exact isDigits_shown h _ _ _
    · cases hs

theorem isDigits_ofDigits? {sign : Sign} {whole fraction : List Char} {d : Decimal}
    (hw : ∀ c ∈ whole, c.isDigit = true) (hf : ∀ c ∈ fraction, c.isDigit = true)
    (h : ofDigits? sign whole fraction = some d) : d.IsDigits := by
  simp only [ofDigits?, Option.ite_none_right_eq_some, Option.some.injEq] at h
  obtain ⟨-, rfl⟩ := h
  refine ⟨fun c hc => ?_, hf⟩
  dsimp only at hc
  split at hc
  · obtain rfl := List.mem_singleton.mp hc
    rfl
  · exact hw c hc

def isNumberChar (c : Char) : Bool := c.isDigit || "+-.eE".toList.contains c

theorem forall_mem_of_readSign {P : Char → Prop} {text cs : List Char} {sign : Sign}
    (hs : readSign text = (sign, cs)) (hp : P '+') (hm : P '-') (h : ∀ c ∈ cs, P c) :
    ∀ c ∈ text, P c := by
  unfold readSign at hs
  split at hs
  · cases hs
    exact List.forall_mem_cons.mpr ⟨hp, h⟩
  · cases hs
    exact List.forall_mem_cons.mpr ⟨hm, h⟩
  · cases hs
    exact h

/-- A fraction is digits after a point, or nothing. -/
theorem splitFraction_cases {cs fraction rest : List Char}
    (h : splitFraction cs = (fraction, rest)) :
    (∀ c ∈ fraction, c.isDigit = true) ∧ (cs = '.' :: fraction ++ rest ∨ cs = rest) := by
  unfold splitFraction at h
  split at h
  · cases h
    refine ⟨List.all_eq_true.mp List.all_takeWhile, .inl ?_⟩
    rw [List.cons_append, List.takeWhile_append_dropWhile]
  · cases h
    exact ⟨by simp, .inr rfl⟩

theorem isNumberChar_of_isDigits {cs : List Char} (h : Numeral.isDigits cs = true) :
    ∀ c ∈ cs, isNumberChar c = true := by
  intro c hc
  simp only [isNumberChar, List.all_eq_true.mp (Bool.and_eq_true_iff.mp h).2 c hc, Bool.true_or]

theorem isNumberChar_of_readExponent? {cs : List Char} {n : Int} (h : readExponent? cs = some n) :
    ∀ c ∈ cs, isNumberChar c = true := by
  unfold readExponent? at h
  split at h
  · cases h
  obtain ⟨he, h⟩ := Option.ite_none_right_eq_some.mp h
  refine List.forall_mem_cons.mpr ⟨?_, ?_⟩
  · simp only [Bool.or_eq_true, decide_eq_true_eq] at he
    rcases he with rfl | rfl <;> decide
  split at h
  · obtain ⟨hd, -⟩ := Option.ite_none_right_eq_some.mp h
    exact List.forall_mem_cons.mpr ⟨by decide, isNumberChar_of_isDigits hd⟩
  · obtain ⟨hd, -⟩ := Option.ite_none_right_eq_some.mp h
    exact isNumberChar_of_isDigits hd

/-- A number has digits before and after the point, and then ends or has an exponent. -/
theorem read?_cases {text : List Char} {d : Decimal} (h : read? text = some d) :
    ∃ sign cs fraction rest base, readSign text = (sign, cs) ∧
      splitFraction (cs.dropWhile Char.isDigit) = (fraction, rest) ∧
      ofDigits? sign (cs.takeWhile Char.isDigit) fraction = some base ∧
      (rest = [] ∧ d = base ∨
        ∃ shift, readExponent? rest = some shift ∧ base.scale? shift = some d) := by
  rcases hs : readSign text with ⟨sign, cs⟩
  rcases hf : splitFraction (cs.dropWhile Char.isDigit) with ⟨fraction, rest⟩
  simp only [read?, hs, hf] at h
  split at h
  · rename_i he
    obtain ⟨-, h⟩ := Option.ite_none_right_eq_some.mp h
    exact ⟨sign, cs, fraction, rest, d, rfl, hf, h, .inl ⟨List.isEmpty_iff.mp he, rfl⟩⟩
  · obtain ⟨-, h⟩ := Option.ite_none_left_eq_some.mp h
    obtain ⟨shift, he, h⟩ := Option.bind_eq_some_iff.mp h
    obtain ⟨base, hb, hd⟩ := Option.bind_eq_some_iff.mp h
    exact ⟨sign, cs, fraction, rest, base, rfl, hf, hb, .inr ⟨shift, he, hd⟩⟩

theorem isDigits_of_read? {text : List Char} {d : Decimal} (h : read? text = some d) :
    d.IsDigits := by
  obtain ⟨sign, cs, fraction, rest, base, -, hf, hb, hd⟩ := read?_cases h
  have hi := isDigits_ofDigits? (List.all_eq_true.mp List.all_takeWhile)
    (splitFraction_cases hf).1 hb
  rcases hd with ⟨-, rfl⟩ | ⟨shift, -, hd⟩
  · exact hi
  · exact isDigits_scale? hi hd

theorem isNumberChar_of_read? {text : List Char} {d : Decimal} (h : read? text = some d) :
    ∀ c ∈ text, isNumberChar c = true := by
  obtain ⟨sign, cs, fraction, rest, base, hs, hf, -, hd⟩ := read?_cases h
  obtain ⟨hfd, hcs⟩ := splitFraction_cases hf
  have hn {ds : List Char} (hc : ∀ c ∈ ds, c.isDigit = true) : ∀ c ∈ ds, isNumberChar c = true :=
    fun c hm => by simp only [isNumberChar, hc c hm, Bool.true_or]
  have hr : ∀ c ∈ rest, isNumberChar c = true := by
    rcases hd with ⟨rfl, -⟩ | ⟨shift, he, -⟩
    · simp
    · exact isNumberChar_of_readExponent? he
  have hw : ∀ c ∈ cs.dropWhile Char.isDigit, isNumberChar c = true := by
    rcases hcs with hcs | hcs
    · rw [hcs]
      exact List.forall_mem_append.mpr ⟨List.forall_mem_cons.mpr ⟨by decide, hn hfd⟩, hr⟩
    · rwa [hcs]
  refine forall_mem_of_readSign hs (by decide) (by decide) ?_
  rw [← @List.takeWhile_append_dropWhile _ Char.isDigit cs]
  exact List.forall_mem_append.mpr ⟨hn (List.all_eq_true.mp List.all_takeWhile), hw⟩

end Number.Decimal
end WikiMessage
