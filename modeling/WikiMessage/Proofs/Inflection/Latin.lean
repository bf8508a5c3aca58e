import WikiMessage.Inflection.Language
import WikiMessage.Proofs.Inflection.Ending

/-!
# Latin endings

Steps that are applied one after another to the running word replace one ending of the word, if it
has any of those that the steps amount to. These are the endings of each step as far as no step
before replaces an end of them already, and those that a step turns into an ending of a later step.
-/

namespace WikiMessage.Inflection

namespace LatinStep

/-- The endings of the step itself. -/
def own (s : LatinStep) : List Ending := s.endings.map fun e => ⟨e.toList, s.replacement.toList, 1⟩

/-- Whether the step replaces an end of the word. -/
def Applies (s : LatinStep) (word : List Char) : Prop := ∃ e ∈ s.own, HasEnding word e.ending

instance (s : LatinStep) (word : List Char) : Decidable (s.Applies word) :=
  inferInstanceAs (Decidable (∃ e ∈ _, _))

/-- The endings that the step and later ones together amount to, where those of the later ones are
given. -/
def before (s : LatinStep) (later : List Ending) : List Ending :=
  s.own ++ s.own.flatMap (fun e => later.filterMap e.andThen?) ++
    later.filter fun l => ∀ e ∈ s.own, ¬e.ending <:+ l.ending

/-- A word has one ending of the step at most, and what takes its place does not end in a later
ending by itself. -/
def IsOrderly (s : LatinStep) (later : List Ending) : Prop :=
  ∀ e ∈ s.own, e.replacement.map Char.toLower = e.replacement ∧
    (∀ e' ∈ s.own, e'.ending.length = e.ending.length) ∧
    ∀ l ∈ later, ¬l.ending <:+ e.replacement

variable {s : LatinStep} {word : List Char} {later : List Ending} {e : Ending}

instance : Decidable (s.IsOrderly later) := inferInstanceAs (Decidable (∀ e ∈ s.own, _ ∧ _ ∧ _))

theorem eq_of_mem_own {e' : Ending} (h : e ∈ s.own) (h' : e' ∈ s.own)
    (he : e.ending = e'.ending) : e = e' := by
  obtain ⟨t, -, rfl⟩ := List.mem_map.mp h
  obtain ⟨t', -, rfl⟩ := List.mem_map.mp h'
  rw [Ending.mk.injEq]
  exact ⟨he, rfl, rfl⟩

theorem apply_of_not_applies (h : ¬s.Applies word) : apply word s = word := by
  have hn : (s.endings.findSome? fun e => replaceEndAnyCase? word e s.replacement) = none := by
    rw [List.findSome?_eq_none_iff]
    intro t ht
    rw [replaceEndAnyCase?_eq _ _ _ 1, if_neg]
    exact fun he => h ⟨_, List.mem_map_of_mem ht, he⟩
  rw [apply, hn, Option.getD_none]

/-- The step replaces the one ending of it that the word has. -/
theorem apply_of_applies (h : s.Applies word) :
    ∃ e ∈ s.own, HasEnding word e.ending ∧ apply word s = e.rewrite word := by
  cases hf : s.endings.findSome? fun t => replaceEndAnyCase? word t s.replacement with
  | none =>
    obtain ⟨e, hm, he⟩ := h
    obtain ⟨t, ht, rfl⟩ := List.mem_map.mp hm
    have hn := List.findSome?_eq_none_iff.mp hf t ht
    rw [replaceEndAnyCase?_eq _ _ _ 1, if_pos he] at hn
    cases hn
  | some result =>
    obtain ⟨t, ht, hr⟩ := List.exists_of_findSome?_eq_some hf
    rw [replaceEndAnyCase?_eq _ _ _ 1] at hr
    obtain ⟨he, hr⟩ := Option.ite_none_right_eq_some.mp hr
    refine ⟨_, List.mem_map_of_mem ht, he, ?_⟩
    rw [apply, hf, Option.getD_some]
    exact (Option.some.inj hr).symm

theorem mem_before_iff {c : Ending} : c ∈ s.before later ↔
    c ∈ s.own ∨ (∃ e ∈ s.own, ∃ l ∈ later, e.andThen? l = some c) ∨
      c ∈ later ∧ ∀ e ∈ s.own, ¬e.ending <:+ c.ending := by
  simp only [before, List.mem_append, List.mem_flatMap, List.mem_filterMap, List.mem_filter,
    decide_eq_true_eq, or_assoc]

end LatinStep

section

variable {s : LatinStep} {later : List Ending} {word result : List Char} {n : Nat} {e : Ending}

/-- A step that replaces nothing adds no ending that the word has, and leaves out none. -/
theorem Declines.before_of_not_applies (hs : ¬s.Applies word) (hd : Declines later word result n) :
    Declines (s.before later) word result n := by
  refine hd.congr fun c hc => ?_
  rw [LatinStep.mem_before_iff]
  constructor
  · refine fun hm => .inr (.inr ⟨hm, fun e he hsuf => hs ⟨e, he, ?_⟩⟩)
    exact List.IsSuffix.trans hsuf hc
  · rintro (hm | ⟨e, he, l, -, ht⟩ | ⟨hm, -⟩)
    · exact absurd ⟨c, hm, hc⟩ hs
    · obtain ⟨front, -, rfl⟩ := andThen?_eq_some_iff.mp ht
      exact absurd ⟨e, he, (List.suffix_append front e.ending).trans hc⟩ hs
    · exact hm

/-- The endings that a word has if the step replaces one. -/
theorem LatinStep.IsOrderly.cases (ho : s.IsOrderly later) (he : e ∈ s.own)
    (hw : HasEnding word e.ending) {c : Ending} (hm : c ∈ s.before later)
    (hc : HasEnding word c.ending) :
    c = e ∨ (∃ front, ∃ l ∈ later, l.ending = front ++ e.replacement ∧
        c = ⟨front ++ e.ending, l.replacement, l.steps + 1⟩ ∧
        HasEnding (e.rewrite word) l.ending) ∨
      c.ending.length ≤ e.ending.length := by
  obtain ⟨hr, hl, -⟩ := ho e he
  have heq {e' : Ending} (he' : e' ∈ s.own) (hw' : HasEnding word e'.ending) : e' = e :=
    LatinStep.eq_of_mem_own he' he (hw'.eq_of_length hw (hl e' he'))
  rcases LatinStep.mem_before_iff.mp hm with hm | ⟨e', he', l, hl', ht⟩ | ⟨hm, hn⟩
  · exact .inl (heq hm hc)
  · obtain ⟨front, hf, rfl⟩ := andThen?_eq_some_iff.mp ht
    obtain rfl := heq he' ((List.suffix_append front e'.ending).trans hc)
    refine .inr (.inl ⟨front, l, hl', hf, rfl, ?_⟩)
    rw [hf, hasEnding_rewrite_iff hw hr]
    exact hc
  · right; right
    rcases List.suffix_or_suffix_of_suffix hw hc with h | h
    · exact absurd h (hn e he)
    · exact h.length_le

/-- A step that replaces an ending puts the later endings behind its own. -/
theorem Declines.before_of_applies (ho : s.IsOrderly later) (he : e ∈ s.own)
    (hw : HasEnding word e.ending) (hd : Declines later (e.rewrite word) result n) :
    Declines (s.before later) word result (1 + n) := by
  obtain ⟨hr, -, hn⟩ := ho e he
  have hstep : e.steps = 1 := by
    obtain ⟨t, -, rfl⟩ := List.mem_map.mp he
    rfl
  cases hd with
  | unchanged hu =>
    rw [Nat.add_zero, ← hstep]
    refine .replaced ⟨LatinStep.mem_before_iff.mpr (.inl he), hw, fun c hm hc => ?_⟩
    rcases ho.cases he hw hm hc with rfl | ⟨front, l, hl, -, -, hhas⟩ | hlen
    · exact Nat.le_refl _
    · exact absurd hhas (hu l hl)
    · exact hlen
  | @replaced l hlong =>
    -- the later ending begins in front of what this step has put in place
    obtain ⟨front, hf, hc⟩ := hw.exists_front hr hlong.hasEnding (hn l hlong.mem)
    rw [Nat.add_comm 1 l.steps, rewrite_rewrite hw hf hc (l.steps + 1)]
    refine .replaced (e := ⟨front ++ e.ending, l.replacement, l.steps + 1⟩) ⟨?_, hc, ?_⟩
    · exact LatinStep.mem_before_iff.mpr
        (.inr (.inl ⟨e, he, l, hlong.mem, andThen?_eq_some_iff.mpr ⟨front, hf, rfl⟩⟩))
    · intro c hm hcw
      rcases ho.cases he hw hm hcw with rfl | ⟨front', l', hl', hf', rfl, hhas⟩ | hlen
      · simp
      · have := hlong.length_le l' hl' hhas
        rw [hf, hf'] at this
        simpa using this
      · exact hlen.trans (by simp)

end

/-- The endings that the steps amount to. -/
def endings : List LatinStep → List Ending
  | [] => []
  | s :: later => s.before (endings later)

/-- The number of steps that replace an end of the running word. -/
def stepsApplied : List LatinStep → List Char → Nat
  | [], _ => 0
  | s :: later, word =>
    (if s.Applies word then 1 else 0) + stepsApplied later (LatinStep.apply word s)

def AreOrderly : List LatinStep → Prop
  | [] => True
  | s :: later => s.IsOrderly (endings later) ∧ AreOrderly later

instance decidableAreOrderly : (steps : List LatinStep) → Decidable (AreOrderly steps)
  | [] => isTrue trivial
  | s :: later =>
    have := decidableAreOrderly later
    inferInstanceAs (Decidable (s.IsOrderly (endings later) ∧ AreOrderly later))

/-- Steps replace the longest of the endings that they amount to. -/
theorem declines_foldl {steps : List LatinStep} (ho : AreOrderly steps) (word : List Char) :
    Declines (endings steps) word (steps.foldl LatinStep.apply word) (stepsApplied steps word) := by
  induction steps generalizing word with
  | nil => exact .unchanged fun e he => absurd he List.not_mem_nil
  | cons s later ih =>
    obtain ⟨hs, hl⟩ := ho
    rw [List.foldl_cons, stepsApplied]
    by_cases h : s.Applies word
    · obtain ⟨e, he, hw, ha⟩ := LatinStep.apply_of_applies h
      rw [if_pos h, ha]
      exact (ih hl (e.rewrite word)).before_of_applies hs he hw
    · rw [if_neg h, Nat.zero_add, LatinStep.apply_of_not_applies h]
      exact (ih hl word).before_of_not_applies h

/-- The endings in the table of a form, each replaced in one step. -/
def listedEndings (form : String) : List Ending := (latinSteps form).flatMap LatinStep.own

/-- The endings that are replaced by one that a later step replaces. -/
def twofoldEndings : String → List Ending
  | "genitive" =>
    [⟨"librum".toList, "librorum".toList, 2⟩, ⟨"librus".toList, "librorum".toList, 2⟩,
      ⟨"nuntium".toList, "nuntiorum".toList, 2⟩, ⟨"nuntius".toList, "nuntiorum".toList, 2⟩]
  | "ablative" => [⟨"tium".toList, "tione".toList, 2⟩, ⟨"tius".toList, "tione".toList, 2⟩]
  | _ => []

def latinEndings (form : String) : List Ending := listedEndings form ++ twofoldEndings form

def latinForms : List String := ["genitive", "accusative", "ablative"]

/-- What is seen of the table of a form. In the accusative one row stands behind a row for an end of
its ending. -/
structure TableFacts (form : String) : Prop where
  areOrderly : AreOrderly (latinSteps form)
  nodup : ((latinEndings form).map (·.ending)).Nodup
  mem_latinEndings : ∀ e ∈ endings (latinSteps form), e ∈ latinEndings form
  mem_endings : ∀ e ∈ latinEndings form,
    e ∈ endings (latinSteps form) ∨ form = "accusative" ∧ e.ending = "ommunia".toList

theorem tableFacts {form : String} (h : form ∈ latinForms) : TableFacts form := by
  have hf : ∀ form ∈ latinForms, AreOrderly (latinSteps form) ∧
      ((latinEndings form).map (·.ending)).Nodup ∧
      (∀ e ∈ endings (latinSteps form), e ∈ latinEndings form) ∧
      ∀ e ∈ latinEndings form,
        e ∈ endings (latinSteps form) ∨ form = "accusative" ∧ e.ending = "ommunia".toList := by
    decide +kernel
  obtain ⟨ho, hn, hs, he⟩ := hf form h
  exact ⟨ho, hn, hs, he⟩

theorem declines_latin {form : String} (hf : form ∈ latinForms) {word : List Char}
    (hw : form = "accusative" → ¬HasEnding word "ommunia".toList) :
    Declines (latinEndings form) word (latin word form) (stepsApplied (latinSteps form) word) := by
  have ht := tableFacts hf
  refine (declines_foldl ht.areOrderly word).congr fun e he =>
    ⟨ht.mem_latinEndings e, fun hm => (ht.mem_endings e hm).resolve_right ?_⟩
  rintro ⟨hacc, hending⟩
  exact hw hacc (hending ▸ he)

theorem inflect_la (word form : String) :
    inflect "la" word form = String.ofList (latin word.toList form) := by
  have hr : rule? "la" = some latin := by
    have ht : Locale.truncations "la" = ["la"] := by decide +kernel
    have hl : Text.lowerAscii "la" = "la" := by decide +kernel
    rw [rule?, ht, List.findSome?_cons, hl]
    rfl
  rw [inflect, hr]

/-- In each of three cases the longest ending that a Latin word has is replaced once, and a word
that has none stays as it is. An ending of the table is replaced in one step; some longer ones are
replaced in two, the second of which rewrites the result of the first. Of accusatives of words in
`ommunia` nothing is said. -/
theorem inflect_latin_longest {form : String} (hf : form ∈ latinForms) {word : String}
    (hw : form = "accusative" → ¬HasEnding word.toList "ommunia".toList) :
    (∀ e, IsLongest (latinEndings form) word.toList e →
        inflect "la" word form = String.ofList (e.rewrite word.toList) ∧
          stepsApplied (latinSteps form) word.toList = e.steps) ∧
      ((∀ e ∈ latinEndings form, ¬HasEnding word.toList e.ending) →
        inflect "la" word form = word ∧ stepsApplied (latinSteps form) word.toList = 0) := by
  have hd := declines_latin hf hw
  rw [inflect_la]
  constructor
  · intro e hl
    obtain ⟨hr, hn⟩ := hd.eq_of_isLongest (tableFacts hf).nodup hl
    exact ⟨congrArg _ hr, hn⟩
  · intro h
    obtain ⟨hr, hn⟩ := hd.eq_of_forall_not h
    rw [hr, String.ofList_toList]
    exact ⟨rfl, hn⟩

/-- Capitals that are replaced become small letters, and others stay. -/
theorem inflect_latin_longest_natio :
    "accusative" ∈ latinForms ∧
      inflect "la" "NATIO" "accusative" = "NAtionem" ∧
      stepsApplied (latinSteps "accusative") "NATIO".toList = 1 := by
  have hl : IsLongest (latinEndings "accusative") "NATIO".toList
      ⟨"tio".toList, "tionem".toList, 1⟩ := by
    refine ⟨?_, ?_, ?_⟩ <;> decide +kernel
  have hf : "accusative" ∈ latinForms := by decide +kernel
  obtain ⟨hr, hn⟩ := (@inflect_latin_longest _ hf "NATIO" fun _ => by decide +kernel).1 _ hl
  refine ⟨hf, hr.trans ?_, hn⟩
  decide +kernel

/-- The longest ending in the table that this word has is `us`, but what takes its place is replaced
again. -/
theorem inflect_latin_nuntius :
    IsLongest (listedEndings "genitive") "nuntius".toList ⟨"us".toList, "i".toList, 1⟩ ∧
      Ending.rewrite ⟨"us".toList, "i".toList, 1⟩ "nuntius".toList = "nuntii".toList ∧
      inflect "la" "nuntius" "genitive" = "nuntiorum" ∧
      stepsApplied (latinSteps "genitive") "nuntius".toList = 2 := by
  rw [inflect_la]
  refine ⟨⟨?_, ?_, ?_⟩, ?_, ?_, ?_⟩ <;> decide +kernel

end WikiMessage.Inflection
