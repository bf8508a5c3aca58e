import Mathlib.Data.List.Perm.Subperm
import WikiMessage.Operation.Suggestion
import WikiMessage.Proofs.Text.EditDistance

/-!
# The nearest names

Names are put in order by their distance from the key and then by their own order. This order tells
any two different names apart, so that the first three of the near names do not depend on the order
in which the names are given, and a near name is left out only for three that stand before it.
-/

namespace WikiMessage.Operation

open WikiMessage.Text

def distance (key name : String) : Nat := editDistance key.toList name.toList

/-- The allowed number of edits is enough to make the name of the key. -/
def IsNear (key name : String) : Prop := ∃ n ≤ allowedDistance key, Edits n key.toList name.toList

/-- The first name stands no later than the second one: it is nearer, or as near and no later in
the order of names. -/
def Precedes (key a b : String) : Prop :=
  distance key a < distance key b ∨ distance key a = distance key b ∧ a ≤ b

variable {key a b c : String} {available other : List String}

theorem isNear_iff (key name : String) :
    IsNear key name ↔ distance key name ≤ allowedDistance key := by
  have hd := isLeast_editDistance key.toList name.toList
  constructor
  · rintro ⟨n, hn, he⟩
    exact Nat.le_trans (hd.2 he) hn
  · exact fun h => ⟨_, h, hd.1⟩

def scoreOf (key name : String) : Scored := (distance key name, name)

theorem precedes_iff : Precedes key a b ↔ Scored.le (scoreOf key a) (scoreOf key b) = true := by
  rw [Scored.le, Bool.or_eq_true, Bool.and_eq_true, decide_eq_true_iff, decide_eq_true_iff,
    decide_eq_true_iff]
  rfl

theorem Precedes.trans (h : Precedes key a b) (h' : Precedes key b c) : Precedes key a c := by
  rcases h with h | ⟨h, ha⟩ <;> rcases h' with h' | ⟨h', hb⟩
  · exact .inl (Nat.lt_trans h h')
  · exact .inl (h' ▸ h)
  · exact .inl (h ▸ h')
  · exact .inr ⟨h.trans h', String.le_trans ha hb⟩

theorem precedes_total (key a b : String) : Precedes key a b ∨ Precedes key b a := by
  rcases Nat.lt_trichotomy (distance key a) (distance key b) with h | h | h
  · exact .inl (.inl h)
  · rcases String.le_total a b with hl | hl
    · exact .inl (.inr ⟨h, hl⟩)
    · exact .inr (.inr ⟨h.symm, hl⟩)
  · exact .inr (.inl h)

/-- No two different names stand at one place. -/
theorem Precedes.antisymm (h : Precedes key a b) (h' : Precedes key b a) : a = b := by
  rcases h with h | ⟨h, ha⟩ <;> rcases h' with h' | ⟨h', hb⟩
  · omega
  · omega
  · omega
  · exact String.le_antisymm ha hb

def near (key : String) (available : List String) : List String :=
  available.filter fun name => distance key name ≤ allowedDistance key

/-- All near names, in order. -/
def ranked (key : String) (available : List String) : List String :=
  (near key available).mergeSort fun a b => Scored.le (scoreOf key a) (scoreOf key b)

theorem suggestions_eq (key : String) (available : List String) :
    suggestions key available = (ranked key available).take 3 := by
  have hs : scored key available = (near key available).map (scoreOf key) := by
    rw [scored, near, List.filter_map]
    rfl
  have hm : Prod.snd ∘ scoreOf key = id := rfl
  have hr : (ranked key available).map (scoreOf key) =
      ((near key available).map (scoreOf key)).mergeSort Scored.le :=
    List.map_mergeSort fun _ _ _ _ => rfl
  rw [suggestions, hs, ← hr, List.map_take, List.map_map, hm, List.map_id]

theorem ranked_perm (key : String) (available : List String) :
    (ranked key available).Perm (near key available) := List.mergeSort_perm _ _

theorem pairwise_ranked (key : String) (available : List String) :
    (ranked key available).Pairwise (Precedes key) := by
  simp only [funext₂ fun a b => propext (@precedes_iff key a b)]
  apply List.pairwise_mergeSort
  · intro a b c hab hbc
    exact precedes_iff.mp ((precedes_iff.mpr hab).trans (precedes_iff.mpr hbc))
  · intro a b
    rw [Bool.or_eq_true, ← precedes_iff, ← precedes_iff]
    exact precedes_total key a b

theorem mem_ranked_iff : a ∈ ranked key available ↔ a ∈ available ∧ IsNear key a := by
  rw [(ranked_perm key available).mem_iff, near, List.mem_filter, decide_eq_true_eq, isNear_iff]

theorem ranked_eq_of_perm (h : other.Perm available) :
    ranked key other = ranked key available := by
  apply List.Perm.eq_of_pairwise (fun a b _ _ => Precedes.antisymm) (pairwise_ranked key other)
    (pairwise_ranked key available)
  exact (ranked_perm key other).trans ((h.filter _).trans (ranked_perm key available).symm)

/-- A list of the nearest three names or fewer, each as often as it is available. -/
structure AreNearest (key : String) (available chosen : List String) : Prop where
  length_le : chosen.length ≤ 3
  subperm : chosen.Subperm available
  isNear : ∀ name ∈ chosen, IsNear key name
  ordered : chosen.Pairwise (Precedes key)
  /-- A near name that is left out, or not taken as often as it is there, stands after three. -/
  full : ∀ name, IsNear key name → chosen.count name < available.count name →
    chosen.length = 3 ∧ ∀ taken ∈ chosen, Precedes key taken name

theorem mem_of_mem_suggestions (h : a ∈ suggestions key available) : a ∈ available := by
  rw [suggestions_eq] at h
  exact (mem_ranked_iff.mp (List.mem_of_mem_take h)).1

theorem full_take_ranked {name : String} (hn : IsNear key name)
    (hc : ((ranked key available).take 3).count name < available.count name) :
    ((ranked key available).take 3).length = 3 ∧
      ∀ taken ∈ (ranked key available).take 3, Precedes key taken name := by
  have hp := pairwise_ranked key available
  have hl : (ranked key available).count name = available.count name := by
    rw [(ranked_perm key available).count_eq]
    exact List.count_filter (decide_eq_true ((isNear_iff key name).mp hn))
  rw [← List.take_append_drop 3 (ranked key available)] at hp hl
  rw [List.count_append] at hl
  -- what is not taken of the name stands behind the first three
  have hd : name ∈ (ranked key available).drop 3 := List.count_pos_iff.mp (by omega)
  have hlen := List.length_pos_of_mem hd
  rw [List.length_drop] at hlen
  refine ⟨by rw [List.length_take]; omega, fun taken ht => ?_⟩
  exact (List.pairwise_append.mp hp).2.2 taken ht name hd

/-- The suggestions are the nearest names, whatever the order in which the names are given. -/
theorem areNearest_suggestions (key : String) (available : List String) :
    AreNearest key available (suggestions key available) ∧
      ∀ other : List String, other.Perm available →
        suggestions key other = suggestions key available := by
  simp only [suggestions_eq]
  constructor
  · constructor
    · exact List.length_take_le 3 _
    · have hs := (List.take_sublist 3 (ranked key available)).subperm
      exact (hs.trans (ranked_perm key available).subperm).trans List.filter_sublist.subperm
    · exact fun name hm => (mem_ranked_iff.mp (List.mem_of_mem_take hm)).2
    · exact (pairwise_ranked key available).take
    · exact fun name => full_take_ranked
  · intro other h
    rw [ranked_eq_of_perm h]

/-- Characters are counted, and a name that is given twice is suggested twice. -/
theorem areNearest_suggestions_accents :
    ["ét", "ete", "été", "fété", "été"].Perm ["été", "été", "fété", "ét", "ete"] ∧
      suggestions "été" ["ét", "ete", "été", "fété", "été"] = ["été", "été", "fété"] := by
  have hn : near "été" ["été", "été", "fété", "ét", "ete"] = ["été", "été", "fété", "ét"] := by
    decide +kernel
  have hs : suggestions "été" ["été", "été", "fété", "ét", "ete"] = ["été", "été", "fété"] := by
    rw [suggestions_eq, ranked, hn, List.mergeSort_of_pairwise (by decide +kernel)]
    rfl
  have hp : ["ét", "ete", "été", "fété", "été"].Perm ["été", "été", "fété", "ét", "ete"] := by
    decide +kernel
  exact ⟨hp, ((areNearest_suggestions "été" _).2 _ hp).trans hs⟩

end WikiMessage.Operation
