import Mathlib.Data.List.DropRight
import Mathlib.Data.List.Induction
import WikiMessage.Text.Blank
import WikiMessage.Text.LowerCase

/-!
# Small letters part by part

Blanks, `-` and `_` are no letters, no letter becomes one of them, and the form of a sigma does not
look past them. So a text cut at some of them has the same small letters part by part, and blanks may
be trimmed off before or after.
-/

namespace WikiMessage.Text

def boundaryRanges : CodeRanges := (0x2d, 0x2d) :: (0x5f, 0x5f) :: blankRanges

/-- A character that parts of a text are cut or trimmed at. -/
def isBoundary (c : Char) : Bool := boundaryRanges.contains c

theorem isBoundary_of_isBlank {c : Char} (h : isBlank c = true) : isBoundary c = true := by
  obtain ⟨r, hr, hc⟩ := CodeRanges.contains_iff.mp h
  exact CodeRanges.contains_iff.mpr ⟨r, List.mem_cons_of_mem _ (List.mem_cons_of_mem _ hr), hc⟩

namespace LowerCase

/-- The capitals of the table. -/
def capitalRanges : CodeRanges := caseRuns.map fun r => (r.first, r.last)

/-- The code points from the small letter of each run's first capital on. -/
def smallRanges : CodeRanges := caseRuns.map fun r => (r.target, r.target + (r.last - r.first))

/-- No table of letter case has a boundary in it. -/
theorem contains_eq_false_of_isBoundary {c : Char} (h : isBoundary c = true) :
    ∀ ranges ∈ [casedRanges, caseIgnorableRanges, capitalRanges, smallRanges],
      ranges.contains c = false := by
  have hd : ∀ ranges ∈ [casedRanges, caseIgnorableRanges, capitalRanges, smallRanges],
      boundaryRanges.areDisjoint ranges = true := by decide +kernel
  exact fun ranges hr => CodeRanges.contains_eq_false (hd ranges hr) h

theorem isCased_of_isBoundary {c : Char} (h : isBoundary c = true) : isCased c = false :=
  contains_eq_false_of_isBoundary h _ (by simp)

theorem isCaseIgnorable_of_isBoundary {c : Char} (h : isBoundary c = true) :
    isCaseIgnorable c = false :=
  contains_eq_false_of_isBoundary h _ (by simp)

theorem covers_iff {r : CaseRun} {n : Nat} :
    r.covers n = true ↔ (r.first ≤ n ∧ n ≤ r.last) ∧ (n - r.first) % r.step = 0 := by
  simp [CaseRun.covers]

theorem lowerChar_of_isBoundary {c : Char} (h : isBoundary c = true) : lowerChar c = [c] := by
  have hi : c ≠ '\u0130' := by
    rintro rfl
    cases h
  have hn : caseRuns.find? (·.covers c.toNat) = none := by
    rw [List.find?_eq_none]
    intro r hr hc
    have hd : capitalRanges.contains c = false :=
      contains_eq_false_of_isBoundary h _ (by simp)
    rw [← Bool.not_eq_true, CodeRanges.contains_iff] at hd
    exact hd ⟨_, List.mem_map_of_mem hr, (covers_iff.mp hc).1⟩
  rw [lowerChar, if_neg hi, hn]

/-- A code point that no character has stands for the first character. -/
theorem toNat_ofNat_or (n : Nat) : (Char.ofNat n).toNat = n ∨ Char.ofNat n = '\x00' := by
  by_cases hv : n.isValidChar
  · left
    rw [Char.ofNat, dif_pos hv]
    rfl
  · right
    rw [Char.ofNat, dif_neg hv]
    rfl

/-- The small letters of a character that is no boundary are none either. -/
theorem isBoundary_of_mem_lowerChar {c d : Char} (h : isBoundary c = false) (hd : d ∈ lowerChar c) :
    isBoundary d = false := by
  unfold lowerChar at hd
  split at hd
  · simp only [List.mem_cons, List.not_mem_nil, or_false] at hd
    rcases hd with rfl | rfl <;> rfl
  · split at hd
    · rename_i r hr
      obtain rfl := List.mem_singleton.mp hd
      rcases toNat_ofNat_or (r.target + (c.toNat - r.first)) with ht | ht
      · have hc := @List.find?_some _ (fun r : CaseRun => r.covers c.toNat) _ _ hr
        obtain ⟨⟨hl, hu⟩, -⟩ := covers_iff.mp hc
        have hs : smallRanges.contains (Char.ofNat (r.target + (c.toNat - r.first))) = true := by
          refine CodeRanges.contains_iff.mpr
            ⟨_, List.mem_map_of_mem (List.mem_of_find?_eq_some hr), ?_⟩
          rw [ht]
          omega
        rw [← Bool.not_eq_true]
        intro hb
        rw [contains_eq_false_of_isBoundary hb _ (by simp)] at hs
        cases hs
      · rw [ht]
        rfl
    · obtain rfl := List.mem_singleton.mp hd
      exact h

theorem lowerChar_ne_nil (c : Char) : lowerChar c ≠ [] := by
  unfold lowerChar
  split
  · exact List.cons_ne_nil _ _
  · split <;> exact List.cons_ne_nil _ _

/-- What a character becomes after a text that ends in a letter or not, and before a text. -/
def smallForm (casedBefore : Bool) (c : Char) (cs : List Char) : List Char :=
  if c = 'Σ' then [if casedBefore && !startsCased cs then 'ς' else 'σ'] else lowerChar c

theorem lowerFrom_cons (casedBefore : Bool) (c : Char) (cs : List Char) :
    lowerFrom casedBefore (c :: cs) = smallForm casedBefore c cs ++
      lowerFrom (if isCaseIgnorable c then casedBefore else isCased c) cs := rfl

variable {casedBefore : Bool} {c : Char} {cs : List Char}

theorem smallForm_ne_nil : smallForm casedBefore c cs ≠ [] := by
  unfold smallForm
  split
  · exact List.cons_ne_nil _ _
  · exact lowerChar_ne_nil c

theorem smallForm_congr {ds : List Char} (h : startsCased cs = startsCased ds) :
    smallForm casedBefore c cs = smallForm casedBefore c ds := by
  rw [smallForm, smallForm, h]

theorem smallForm_of_isBoundary (h : isBoundary c = true) : smallForm casedBefore c cs = [c] := by
  have hs : c ≠ 'Σ' := by
    rintro rfl
    cases h
  rw [smallForm, if_neg hs, lowerChar_of_isBoundary h]

theorem isBoundary_of_mem_smallForm (h : isBoundary c = false) :
    ∀ d ∈ smallForm casedBefore c cs, isBoundary d = false := by
  intro d hd
  unfold smallForm at hd
  split at hd
  · obtain rfl := List.mem_singleton.mp hd
    split <;> rfl
  · exact isBoundary_of_mem_lowerChar h hd

/-- A class of boundaries is left and entered by none of the characters. -/
theorem not_of_mem_smallForm {p : Char → Bool} (hp : ∀ c, p c = true → isBoundary c = true)
    (h : p c = false) : ∀ d ∈ smallForm casedBefore c cs, p d = false := by
  intro d hd
  cases hb : isBoundary c with
  | true =>
    rw [smallForm_of_isBoundary hb, List.mem_singleton] at hd
    exact hd ▸ h
  | false =>
    rw [← Bool.not_eq_true]
    intro hpd
    have hn := isBoundary_of_mem_smallForm hb d hd
    rw [hp d hpd] at hn
    cases hn

/-- What follows a boundary is not looked at. -/
theorem startsCased_append_cons (h : isBoundary c = true) (before after : List Char) :
    startsCased (before ++ c :: after) = startsCased before := by
  induction before with
  | nil =>
    show (if isCaseIgnorable c then startsCased after else isCased c) = false
    rw [isCaseIgnorable_of_isBoundary h, isCased_of_isBoundary h]
    rfl
  | cons b before ih => rw [List.cons_append, startsCased, startsCased, ih]

theorem lowerFrom_cons_of_isBoundary (h : isBoundary c = true) :
    lowerFrom casedBefore (c :: cs) = c :: lowerChars cs := by
  rw [lowerFrom_cons, smallForm_of_isBoundary h, isCaseIgnorable_of_isBoundary h,
    isCased_of_isBoundary h]
  rfl

theorem lowerFrom_append_cons (h : isBoundary c = true) (before after : List Char) :
    lowerFrom casedBefore (before ++ c :: after) =
      lowerFrom casedBefore before ++ c :: lowerChars after := by
  induction before generalizing casedBefore with
  | nil => exact lowerFrom_cons_of_isBoundary h
  | cons b before ih =>
    rw [List.cons_append, lowerFrom_cons, lowerFrom_cons, ih, List.append_assoc,
      smallForm_congr (startsCased_append_cons h before after)]

theorem mem_lowerFrom {d : Char} (h : d ∈ lowerFrom casedBefore cs) :
    ∃ c ∈ cs, ∃ casedBefore after, d ∈ smallForm casedBefore c after := by
  induction cs generalizing casedBefore with
  | nil => cases h
  | cons c cs ih =>
    rw [lowerFrom_cons, List.mem_append] at h
    rcases h with h | h
    · exact ⟨c, List.mem_cons_self, _, _, h⟩
    · obtain ⟨c', hc, hd⟩ := ih h
      exact ⟨c', List.mem_cons_of_mem _ hc, hd⟩

theorem exists_lowerFrom_concat (casedBefore : Bool) (cs : List Char) (c : Char) :
    ∃ start before, lowerFrom casedBefore (cs ++ [c]) = start ++ smallForm before c [] := by
  induction cs generalizing casedBefore with
  | nil => exact ⟨[], casedBefore, by rw [List.nil_append, lowerFrom_cons]; exact List.append_nil _⟩
  | cons d cs ih =>
    obtain ⟨start, before, hs⟩ := ih (if isCaseIgnorable d then casedBefore else isCased d)
    exact ⟨_, before, by rw [List.cons_append, lowerFrom_cons, hs, ← List.append_assoc]⟩

end LowerCase

open LowerCase

theorem lowerChars_append_cons {c : Char} (h : isBoundary c = true) (before after : List Char) :
    lowerChars (before ++ c :: after) = lowerChars before ++ c :: lowerChars after :=
  lowerFrom_append_cons h before after

theorem lowerChars_eq_nil_iff {cs : List Char} : lowerChars cs = [] ↔ cs = [] := by
  constructor
  · intro h
    cases cs with
    | nil => rfl
    | cons c cs =>
      rw [lowerChars, lowerFrom_cons, List.append_eq_nil_iff] at h
      exact absurd h.1 smallForm_ne_nil
  · rintro rfl
    rfl

/-- A class of boundaries that a text does not touch is not touched by its small letters either. -/
theorem not_of_mem_lowerChars {p : Char → Bool} (hp : ∀ c, p c = true → isBoundary c = true)
    {cs : List Char} (h : ∀ c ∈ cs, p c = false) : ∀ d ∈ lowerChars cs, p d = false := by
  intro d hd
  obtain ⟨c, hc, _, _, hs⟩ := mem_lowerFrom hd
  exact not_of_mem_smallForm hp (h c hc) d hs

/-- A text is one part without a cut, or a part, a cut and the other parts. -/
theorem splitOnP_induction {p : Char → Bool} {motive : List Char → Prop}
    (single : ∀ cs, (∀ c ∈ cs, p c = false) → motive cs)
    (cut : ∀ part c cs, (∀ d ∈ part, p d = false) → p c = true → motive cs →
      motive (part ++ c :: cs)) (cs : List Char) : motive cs := by
  -- generalized over the part that has been seen so far
  suffices h : ∀ part, (∀ d ∈ part, p d = false) → motive (part ++ cs) from
    h [] fun d hd => by cases hd
  induction cs with
  | nil =>
    intro part hp
    rw [List.append_nil]
    exact single part hp
  | cons c cs ih =>
    intro part hp
    cases hc : p c with
    | true => exact cut part c cs hp hc (ih [] fun d hd => by cases hd)
    | false =>
      have h := ih (part ++ [c]) fun d hd => by
        rcases List.mem_append.mp hd with hd | hd
        · exact hp d hd
        · exact List.mem_singleton.mp hd ▸ hc
      rwa [List.append_assoc] at h

/-- The parts have the characters of the text but for those it is cut at. -/
theorem of_mem_splitOnP {p : Char → Bool} {cs part : List Char} (h : part ∈ cs.splitOnP p) :
    ∀ c ∈ part, c ∈ cs ∧ p c = false := by
  induction cs using splitOnP_induction (p := p) with
  | single cs hn =>
    rw [List.splitOnP_eq_singleton hn, List.mem_singleton] at h
    exact fun c hc => h ▸ ⟨hc, hn c (h ▸ hc)⟩
  | cut first c cs hn hc ih =>
    rw [List.splitOnP_append_cons_of_forall_mem hn c hc] at h
    intro d hd
    rcases List.mem_cons.mp h with rfl | h
    · exact ⟨List.mem_append_left _ hd, hn d hd⟩
    · obtain ⟨hm, hp⟩ := ih h d hd
      exact ⟨List.mem_append_right _ (List.mem_cons_of_mem _ hm), hp⟩

theorem splitOnP_lowerChars {p : Char → Bool} (hp : ∀ c, p c = true → isBoundary c = true)
    (cs : List Char) : (lowerChars cs).splitOnP p = (cs.splitOnP p).map lowerChars := by
  induction cs using splitOnP_induction (p := p) with
  | single cs h =>
    rw [List.splitOnP_eq_singleton h, List.splitOnP_eq_singleton (not_of_mem_lowerChars hp h)]
    rfl
  | cut part c cs h hc ih =>
    rw [lowerChars_append_cons (hp c hc), List.splitOnP_append_cons_of_forall_mem h c hc,
      List.splitOnP_append_cons_of_forall_mem (not_of_mem_lowerChars hp h) c hc, ih]
    rfl

theorem lowerChars_intercalate {c : Char} (h : isBoundary c = true) (parts : List (List Char)) :
    lowerChars ([c].intercalate parts) = [c].intercalate (parts.map lowerChars) := by
  induction parts with
  | nil => rfl
  | cons part parts ih =>
    cases parts with
    | nil => simp
    | cons part' parts =>
      rw [List.map_cons, List.map_cons]
      rw [List.map_cons] at ih
      rw [List.intercalate_cons_cons, List.intercalate_cons_cons, List.append_assoc,
        List.append_assoc, List.singleton_append, lowerChars_append_cons h, ih,
        List.singleton_append]

theorem splitOnP_map {p : Char → Bool} {f : Char → Char} (h : ∀ c, p (f c) = p c)
    (cs : List Char) : (cs.map f).splitOnP p = (cs.splitOnP p).map (List.map f) := by
  induction cs with
  | nil => simp
  | cons c cs ih =>
    rw [List.map_cons, List.splitOnP_cons_eq_if_modifyHead, List.splitOnP_cons_eq_if_modifyHead, h,
      ih]
    split
    · rfl
    · cases cs.splitOnP p <;> rfl

theorem map_intercalate (f : Char → Char) (mark : List Char) (parts : List (List Char)) :
    (mark.intercalate parts).map f = (mark.map f).intercalate (parts.map (List.map f)) := by
  induction parts with
  | nil => rfl
  | cons part parts ih =>
    cases parts with
    | nil => simp
    | cons part' parts =>
      rw [List.intercalate_cons_cons, List.map_append, List.map_append, ih]
      simp only [List.map_cons, List.intercalate_cons_cons]

theorem dropWhileEnd_map {p : Char → Bool} {f : Char → Char} (h : ∀ c, p (f c) = p c)
    (cs : List Char) : dropWhileEnd p (cs.map f) = (dropWhileEnd p cs).map f := by
  have hp : p ∘ f = p := funext h
  rw [dropWhileEnd, dropWhileEnd, ← List.map_reverse, List.dropWhile_map, hp, List.map_reverse]

/-- What is put in place of characters one by one is trimmed as they are, if blanks stay blanks. -/
theorem trimChars_map {f : Char → Char} (h : ∀ c, isBlank (f c) = isBlank c) (cs : List Char) :
    trimChars (cs.map f) = (trimChars cs).map f := by
  have hf : isBlank ∘ f = isBlank := funext h
  rw [trimChars, List.dropWhile_map, hf, dropWhileEnd_map h, trimChars]

theorem trimChars_trimChars (cs : List Char) : trimChars (trimChars cs) = trimChars cs := by
  refine trimChars_eq_self (fun c hc => ?_) fun c hc => ?_
  · obtain ⟨tail, ht⟩ := List.rdropWhile_prefix isBlank (cs.dropWhile isBlank)
    have hh : (cs.dropWhile isBlank).head? = some c := by
      rw [← ht, List.head?_append]
      exact Option.or_eq_some_iff.mpr (.inl hc)
    have hb := List.head?_dropWhile_not isBlank cs
    rw [hh] at hb
    simpa using hb
  · have hb := List.head?_dropWhile_not isBlank (cs.dropWhile isBlank).reverse
    have hl : ((cs.dropWhile isBlank).reverse.dropWhile isBlank).reverse.getLast? = some c := hc
    rw [← List.getLast?_reverse, hl] at hb
    simpa using hb

theorem dropWhileEnd_append_of_pos {p : Char → Bool} {c : Char} (h : p c = true)
    (cs : List Char) : dropWhileEnd p (cs ++ [c]) = dropWhileEnd p cs := by
  simp [dropWhileEnd, h]

theorem lowerChars_dropWhile (cs : List Char) :
    lowerChars (cs.dropWhile isBlank) = (lowerChars cs).dropWhile isBlank := by
  induction cs with
  | nil => rfl
  | cons c cs ih =>
    cases hc : isBlank c with
    | true =>
      have hl : lowerChars (c :: cs) = c :: lowerChars cs :=
        lowerFrom_cons_of_isBoundary (isBoundary_of_isBlank hc)
      rw [List.dropWhile_cons_of_pos hc, hl, List.dropWhile_cons_of_pos hc, ih]
    | false =>
      obtain ⟨d, ds, hd⟩ := List.exists_cons_of_ne_nil (@smallForm_ne_nil false c cs)
      have hn : isBlank d = false :=
        not_of_mem_smallForm (fun _ => isBoundary_of_isBlank) hc d (hd ▸ List.mem_cons_self)
      rw [List.dropWhile_cons_of_neg (by simp [hc]), lowerChars, lowerFrom_cons, hd,
        List.cons_append, List.dropWhile_cons_of_neg (by simp [hn])]

theorem lowerChars_dropWhileEnd (cs : List Char) :
    lowerChars (dropWhileEnd isBlank cs) = dropWhileEnd isBlank (lowerChars cs) := by
  induction cs using List.reverseRecOn with
  | nil => rfl
  | append_singleton cs c ih =>
    cases hc : isBlank c with
    | true =>
      have hl : lowerChars (cs ++ [c]) = lowerChars cs ++ [c] :=
        lowerChars_append_cons (isBoundary_of_isBlank hc) cs []
      rw [dropWhileEnd_append_of_pos hc, hl, dropWhileEnd_append_of_pos hc, ih]
    | false =>
      obtain ⟨start, before, hs⟩ := exists_lowerFrom_concat false cs c
      obtain ⟨ds, d, hd⟩ := List.eq_nil_or_concat (smallForm before c []) |>.resolve_left
        smallForm_ne_nil
      have hn : isBlank d = false :=
        not_of_mem_smallForm (fun _ => isBoundary_of_isBlank) hc d (by rw [hd]; simp)
      rw [dropWhileEnd_append_of_neg hc, lowerChars, hs, hd, List.concat_eq_append,
        ← List.append_assoc, dropWhileEnd_append_of_neg hn]

theorem lowerChars_trimChars (cs : List Char) :
    lowerChars (trimChars cs) = trimChars (lowerChars cs) := by
  rw [trimChars, lowerChars_dropWhileEnd, lowerChars_dropWhile]
  rfl

end WikiMessage.Text
