import WikiMessage.Proofs.Text.Ascii
import WikiMessage.Text.Grapheme

/-!
# Tags and grapheme clusters

A letter or a slash after a `<` begins a grapheme cluster. The last cluster of a text can thus not
hold the beginning of a tag, but at most the end of one.
-/

namespace WikiMessage.Text

/-- Wherever a `<` stands in the text, what follows it has the property. -/
def EachAngle (P : List Char → Prop) (cs : List Char) : Prop :=
  ∀ ⦃before after⦄, cs = before ++ '<' :: after → P after

namespace EachAngle

variable {P : List Char → Prop} {cs ds : List Char}

theorem head (h : EachAngle P ('<' :: cs)) : P cs := @h [] cs rfl

theorem tail {c : Char} (h : EachAngle P (c :: cs)) : EachAngle P cs :=
  fun before _ he => @h (c :: before) _ (congrArg (c :: ·) he)

theorem of_not_mem (h : '<' ∉ cs) : EachAngle P cs := by
  rintro before after rfl
  exact absurd (by simp) h

theorem cons {c : Char} (hc : c = '<' → P cs) (h : EachAngle P cs) : EachAngle P (c :: cs) := by
  intro before after he
  cases before with
  | nil =>
    obtain ⟨rfl, rfl⟩ := List.cons.inj he
    exact hc rfl
  | cons b before => exact h (List.cons.inj he).2

/-- Joining keeps a property that a text keeps when something follows it. -/
theorem append (hp : ∀ {as bs}, P as → P (as ++ bs)) (hc : EachAngle P cs) (hd : EachAngle P ds) :
    EachAngle P (cs ++ ds) := by
  induction cs with
  | nil => exact hd
  | cons c cs ih =>
    refine cons (fun he => ?_) (ih hc.tail)
    subst he
    exact hp hc.head

end EachAngle

namespace Grapheme

/-- What follows the `<` of a tag. -/
def isTagStart (c : Char) : Bool := c.isAlpha || c = '/'

/-- Letters, `<` and `/` of ASCII and what stands between them. -/
def isPlain (c : Char) : Bool := CodeRanges.contains [(0x2f, 0x7a)] c

theorem isPlain_iff {c : Char} : isPlain c = true ↔ 0x2f ≤ c.toNat ∧ c.toNat ≤ 0x7a := by
  simp [isPlain, CodeRanges.contains]

theorem isPlain_of_isTagStart {c : Char} (h : isTagStart c = true) : isPlain c = true := by
  simp only [isTagStart, Bool.or_eq_true, decide_eq_true_eq] at h
  rcases h with h | rfl
  · have hc := isAlpha_iff.mp h
    exact isPlain_iff.mpr (by omega)
  · rfl

/-- The tables that tell characters apart by how they join with others. -/
def joiningTables : List CodeRanges :=
  [Combining.combiningRanges, controlRanges, prependRanges, spacingMarkRanges, pictographRanges,
    conjunctConsonantRanges, linkerRanges]

theorem contains_eq_false_of_isPlain {c : Char} (h : isPlain c = true) :
    ∀ ranges ∈ joiningTables, ranges.contains c = false := by
  have hd : ∀ ranges ∈ joiningTables, CodeRanges.areDisjoint [(0x2f, 0x7a)] ranges = true := by
    decide +kernel
  exact fun ranges hr => CodeRanges.contains_eq_false (hd ranges hr) h

theorem syllableKind_of_isPlain {c : Char} (h : isPlain c = true) : syllableKind c = .other := by
  have hc := isPlain_iff.mp h
  unfold syllableKind isComposedVowel
  rw [if_neg, if_neg, if_neg, if_neg] <;>
    simp only [Bool.or_eq_true, Bool.and_eq_true, decide_eq_true_eq] <;> omega

theorem kind_of_isPlain {c : Char} (h : isPlain c = true) : Kind.ofChar c = .other := by
  have hc := isPlain_iff.mp h
  have ht {ranges : CodeRanges} := contains_eq_false_of_isPlain h ranges
  have hr : c ≠ '\r' := by rintro rfl; cases h
  have hn : c ≠ '\n' := by rintro rfl; cases h
  have hj : c ≠ joiner := by rintro rfl; cases h
  have hs : Emoji.isSkinTone c = false := by
    simp only [Emoji.isSkinTone, Bool.and_eq_false_iff, decide_eq_false_iff_not]
    omega
  have hg : Emoji.isRegional c = false := by
    simp only [Emoji.isRegional, Bool.and_eq_false_iff, decide_eq_false_iff_not]
    omega
  have hcombining : isCombining c = false := ht (by simp [joiningTables])
  have hcontrol : controlRanges.contains c = false := ht (by simp [joiningTables])
  have hprepend : prependRanges.contains c = false := ht (by simp [joiningTables])
  have hspacing : spacingMarkRanges.contains c = false := ht (by simp [joiningTables])
  simp [Kind.ofChar, hr, hn, hj, hs, hg, syllableKind_of_isPlain h, hcombining, hcontrol,
    hprepend, hspacing]

/-- A cluster ends after the `<` of a tag, whatever stands before it. -/
theorem breakBetween_tag (before : Context) {c : Char} (h : isTagStart c = true) :
    breakBetween (before.after '<') c = true := by
  have hp : isPlain '<' = true := rfl
  have ht {ranges : CodeRanges} := contains_eq_false_of_isPlain hp ranges
  have hk : Kind.ofChar '<' = .other := kind_of_isPlain hp
  have he : (before.after '<').emoji = .none := by
    have hi : isPictograph '<' = false := ht (by simp [joiningTables])
    simp only [Context.after, hk, hi]
    cases before.emoji <;> rfl
  have hc : (before.after '<').conjunct = .none := by
    have h₁ : isConjunctConsonant '<' = false := ht (by simp [joiningTables])
    have h₂ : isLinker '<' = false := ht (by simp [joiningTables])
    simp [Context.after, hk, h₁, h₂]
  have hb : (before.after '<').kind = .other := by rw [Context.after, hk]
  rw [breakBetween, kind_of_isPlain (isPlain_of_isTagStart h), hb, he, hc]
  rfl

/-- Every `<` of the text begins a tag. -/
def TagsBegin (cs : List Char) : Prop := EachAngle (fun after => after.head?.any isTagStart) cs

theorem exists_clustersAfter (before : Context) (cs : List Char) :
    ∃ cluster more, clustersAfter before cs = cluster :: more := by
  unfold clustersAfter
  split
  · exact ⟨[], [], rfl⟩
  split
  · exact ⟨_, _, rfl⟩
  split
  · exact ⟨_, _, rfl⟩
  · exact ⟨_, _, rfl⟩

/-- The beginning of a tag in front of a text is in another cluster than the last of the text. -/
theorem not_mem_getLast_cons {before : Context} {c : Char} {cs cluster : List Char}
    {more : List (List Char)} (h : TagsBegin (c :: cs))
    (hc : clustersAfter (before.after c) cs = cluster :: more)
    (hl : ∀ l ∈ (cluster :: more).getLast?, '<' ∉ l) :
    ∀ l ∈ ((c :: cluster) :: more).getLast?, '<' ∉ l := by
  cases more with
  | cons l more => simpa using hl
  | nil =>
    have hn : c ≠ '<' := by
      rintro rfl
      have ht := h.head
      cases cs with
      | nil => cases ht
      | cons e cs =>
        obtain ⟨l, more, hm⟩ := exists_clustersAfter ((before.after '<').after e) cs
        rw [clustersAfter, hm, breakBetween_tag before ht] at hc
        cases hc
    simpa [hn.symm] using hl

theorem not_mem_getLast_clustersAfter (before : Context) {cs : List Char} (h : TagsBegin cs) :
    ∀ l ∈ (clustersAfter before cs).getLast?, '<' ∉ l := by
  induction cs generalizing before with
  | nil => simp [clustersAfter]
  | cons c cs ih =>
    obtain ⟨cluster, more, hc⟩ := exists_clustersAfter (before.after c) cs
    have hl := not_mem_getLast_cons h hc (hc ▸ ih (before.after c) h.tail)
    simp only [clustersAfter, hc]
    split
    · simpa using hl
    · exact hl

theorem not_mem_last {cs : List Char} (h : TagsBegin cs) : '<' ∉ last cs := by
  cases cs with
  | nil => simp [last, clusters]
  | cons c cs =>
    obtain ⟨cluster, more, hc⟩ := exists_clustersAfter (Context.start.after c) cs
    have hl := not_mem_getLast_cons h hc (hc ▸ not_mem_getLast_clustersAfter _ h.tail)
    refine hl _ ?_
    simp only [last, clusters, hc, List.getLastD_eq_getLast?, List.getLast?_cons, Option.getD_some,
      Option.mem_def]

end Grapheme
end WikiMessage.Text
