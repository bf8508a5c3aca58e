import WikiMessage.Text.Rule

/-!
# Repeated rules

A rule advances if what it leaves is a shorter end of the text it was given. Repeating such a rule
succeeds as often as the rule does, one time after another, and ends where it fails: the bound of
the repetition is never met. Nothing else is needed of repetition, so later proofs follow its runs.
-/

namespace WikiMessage.Text.Rule

variable {α β : Type} {rule : Rule α}

/-- What is left after a success is a proper end of the text. -/
def Advances (rule : Rule α) : Prop :=
  ∀ ⦃cs a rest⦄, rule cs = some (a, rest) → rest <:+ cs ∧ rest.length < cs.length

/-- The rule succeeds one time after another from `cs` on, and fails at `rest`. -/
inductive Run (rule : Rule α) : List Char → List α → List Char → Prop
  | stop {cs : List Char} (h : rule cs = none) : Run rule cs [] cs
  | step {cs mid rest : List Char} {a : α} {as : List α} (h : rule cs = some (a, mid))
      (tail : Run rule mid as rest) : Run rule cs (a :: as) rest

theorem Advances.nil (h : Advances rule) : rule [] = none := by
  cases hr : rule [] with
  | none => rfl
  | some p => exact absurd (h hr).2 (Nat.not_lt_zero _)

namespace Run

theorem fails {cs rest : List Char} {as : List α} (h : Run rule cs as rest) : rule rest = none := by
  induction h with
  | stop h => exact h
  | step h tail ih => exact ih

theorem suffix (ha : Advances rule) {cs rest : List Char} {as : List α} (h : Run rule cs as rest) :
    rest <:+ cs := by
  induction h with
  | stop h => exact List.suffix_refl _
  | step h tail ih => exact ih.trans (ha h).1

theorem length_le (ha : Advances rule) {cs rest : List Char} {as : List α}
    (h : Run rule cs as rest) : rest.length ≤ cs.length := (h.suffix ha).length_le

/-- A run that found something is shorter at its end. -/
theorem length_lt (ha : Advances rule) {cs rest : List Char} {as : List α}
    (h : Run rule cs as rest) (hn : as ≠ []) : rest.length < cs.length := by
  cases h with
  | stop h => exact absurd rfl hn
  | step h tail => exact Nat.lt_of_le_of_lt (tail.length_le ha) (ha h).2

theorem unique {cs rest left : List Char} {as bs : List α} (h : Run rule cs as rest)
    (h' : Run rule cs bs left) : as = bs ∧ rest = left := by
  induction h generalizing bs with
  | stop h =>
    cases h' with
    | stop _ => exact ⟨rfl, rfl⟩
    | step hs _ => rw [h] at hs; cases hs
  | step h tail ih =>
    cases h' with
    | stop hn => rw [h] at hn; cases hn
    | step hs tail' =>
      rw [h] at hs
      cases hs
      obtain ⟨rfl, rfl⟩ := ih tail'
      exact ⟨rfl, rfl⟩

/-- What each success on an end of the text yields holds of all that a run found. -/
theorem forall_mem_of_suffix {P : α → Prop} (ha : Advances rule) {cs rest : List Char}
    {as : List α} (hp : ∀ ⦃mid a rest⦄, mid <:+ cs → rule mid = some (a, rest) → P a)
    (h : Run rule cs as rest) : ∀ a ∈ as, P a := by
  induction h with
  | stop h => simp
  | step h tail ih =>
    refine List.forall_mem_cons.mpr ⟨hp (List.suffix_refl _) h, ih fun mid a rest hs hm => ?_⟩
    exact hp (hs.trans (ha h).1) hm

/-- What each success yields of its own part holds of all that a run found. -/
theorem forall_mem {P : α → Prop} (hp : ∀ ⦃cs a rest⦄, rule cs = some (a, rest) → P a)
    {cs rest : List Char} {as : List α} (h : Run rule cs as rest) : ∀ a ∈ as, P a := by
  induction h with
  | stop h => simp
  | step h tail ih =>
    intro a ha
    rcases List.mem_cons.mp ha with rfl | ha
    · exact hp h
    · exact ih a ha

end Run

theorem many_run (ha : Advances rule) {bound : Nat} {cs : List Char} (hb : cs.length ≤ bound) :
    Run rule cs (many rule bound cs).1 (many rule bound cs).2 := by
  induction bound generalizing cs with
  | zero =>
    obtain rfl := List.length_eq_zero_iff.mp (Nat.le_zero.mp hb)
    exact .stop ha.nil
  | succ bound ih =>
    cases hr : rule cs with
    | none => simpa [many, hr] using Run.stop hr
    | some p =>
      obtain ⟨a, mid⟩ := p
      have hlt := (ha hr).2
      simpa [many, hr] using Run.step hr (ih (by omega))

theorem repeated_eq_iff (ha : Advances rule) {cs rest : List Char} {as : List α} :
    repeated rule cs = (as, rest) ↔ Run rule cs as rest := by
  have hr : Run rule cs (repeated rule cs).1 (repeated rule cs).2 := many_run ha (Nat.le_refl _)
  constructor
  · intro h
    rwa [h] at hr
  · intro h
    obtain ⟨h₁, h₂⟩ := hr.unique h
    rw [← h₁, ← h₂]

theorem Advances.suffix_repeated (ha : Advances rule) (cs : List Char) :
    (Rule.repeated rule cs).2 <:+ cs :=
  ((repeated_eq_iff ha).mp rfl).suffix ha

theorem repeated1_eq_some_iff (ha : Advances rule) {cs rest : List Char} {as : List α} :
    repeated1 rule cs = some (as, rest) ↔ as ≠ [] ∧ Run rule cs as rest := by
  rw [← repeated_eq_iff ha]
  rcases hr : repeated rule cs with ⟨_ | ⟨b, bs⟩, left⟩
  · simp only [repeated1, hr, reduceCtorEq, Prod.mk.injEq, false_iff, not_and]
    intro hn he
    exact absurd he.symm hn
  · simp only [repeated1, hr, Option.some.injEq, Prod.mk.injEq, iff_and_self, and_imp]
    rintro rfl - he
    exact List.cons_ne_nil b bs he

theorem repeated1_eq_none_iff (ha : Advances rule) {cs : List Char} :
    repeated1 rule cs = none ↔ rule cs = none := by
  have hr : Run rule cs (repeated rule cs).1 (repeated rule cs).2 := many_run ha (Nat.le_refl _)
  rcases he : repeated rule cs with ⟨_ | ⟨b, bs⟩, left⟩
  · rw [he] at hr
    cases hr with
    | stop hn => simp [repeated1, he, hn]
  · rw [he] at hr
    cases hr with
    | step hs _ => simp [repeated1, he, hs]

theorem Advances.repeated1 (ha : Advances rule) : Advances (repeated1 rule) := by
  intro cs as rest h
  obtain ⟨hn, hr⟩ := (repeated1_eq_some_iff ha).mp h
  exact ⟨hr.suffix ha, hr.length_lt ha hn⟩

section

variable {other : Rule α} {cs : List Char}

/-- The two rules do the same on every end of the text. -/
def AgreeOnEnds (cs : List Char) (rule other : Rule α) : Prop :=
  ∀ ⦃rest : List Char⦄, rest <:+ cs → rule rest = other rest

theorem AgreeOnEnds.of_suffix {rest : List Char} (h : AgreeOnEnds cs rule other)
    (hs : rest <:+ cs) : AgreeOnEnds rest rule other :=
  fun _ hl => h (hl.trans hs)

theorem AgreeOnEnds.many (ha : Advances rule) (h : AgreeOnEnds cs rule other) {bound : Nat} :
    many rule bound cs = many other bound cs := by
  induction bound generalizing cs with
  | zero => rfl
  | succ bound ih =>
    simp only [Rule.many, ← h (List.suffix_refl cs)]
    cases hr : rule cs with
    | none => rfl
    | some p => simp only [ih (h.of_suffix (ha hr).1)]

theorem AgreeOnEnds.repeated (ha : Advances rule) (h : AgreeOnEnds cs rule other) :
    repeated rule cs = repeated other cs := h.many ha

theorem AgreeOnEnds.repeated1 (ha : Advances rule) (h : AgreeOnEnds cs rule other) :
    AgreeOnEnds cs (repeated1 rule) (repeated1 other) := by
  intro rest hs
  simp only [Rule.repeated1, (h.of_suffix hs).repeated ha]

/-- The two rules do the same on every text of at most this length. -/
def AgreeUpTo (n : Nat) (rule other : Rule α) : Prop :=
  ∀ ⦃cs : List Char⦄, cs.length ≤ n → rule cs = other cs

theorem AgreeUpTo.onEnds {n : Nat} (h : AgreeUpTo n rule other) (hc : cs.length ≤ n) :
    AgreeOnEnds cs rule other :=
  fun _ hs => h (Nat.le_trans hs.length_le hc)

theorem AgreeUpTo.run {n : Nat} (ha : Advances rule) (ha' : Advances other)
    (h : AgreeUpTo n rule other) {rest : List Char} {as : List α} (hc : cs.length ≤ n)
    (hr : Run rule cs as rest) : Run other cs as rest := by
  rw [← repeated_eq_iff ha'] at *
  rwa [← (h.onEnds hc).repeated ha, repeated_eq_iff ha]

end

end WikiMessage.Text.Rule
