import WikiMessage.Proofs.Catalog.WellFormed

/-!
# The entries of a store

A store as the list of its messages, each with the tag and the key it is stored under. No two
messages share both.
-/

namespace WikiMessage.Catalog.Store

open WikiMessage.Locale

/-- The messages of all catalogs, each with its tag, its key and its template. -/
def entries (s : Store) : List (String × String × String) :=
  s.catalogs.toList.flatMap fun (tag, messages) =>
    messages.toList.map fun (key, template) => (tag, key, template)

variable {s : Store} {tag key template : String}

theorem mem_entries_iff : (tag, key, template) ∈ s.entries ↔
    ∃ messages, s.catalogs[tag]? = some messages ∧ messages[key]? = some template := by
  simp only [entries, List.mem_flatMap, List.mem_map, Prod.exists, Prod.mk.injEq,
    Std.TreeMap.mem_toList_iff_getElem?_eq_some]
  constructor
  · rintro ⟨tag', messages, hc, key', template', hm, rfl, rfl, rfl⟩
    exact ⟨messages, hc, hm⟩
  · rintro ⟨messages, hc, hm⟩
    exact ⟨tag, messages, hc, key, template, hm, rfl, rfl, rfl⟩

theorem WellFormed.messages_eq (h : s.WellFormed) {messages : Messages}
    (hm : s.catalogs[tag]? = some messages) : s.messages tag = messages := by
  rw [Store.messages, (h tag messages hm).isPlain.normalize_eq, hm, Option.getD_some]

/-- The entries are what the questions for locales and templates find. -/
theorem WellFormed.mem_entries_iff_get? (h : s.WellFormed) :
    (tag, key, template) ∈ s.entries ↔ tag ∈ s.locales ∧ s.get? key tag = some template := by
  rw [mem_entries_iff, mem_locales_iff]
  constructor
  · rintro ⟨messages, hc, hm⟩
    exact ⟨⟨messages, hc⟩, by rw [get?, h.messages_eq hc, hm]⟩
  · rintro ⟨⟨messages, hc⟩, hg⟩
    rw [get?, h.messages_eq hc] at hg
    exact ⟨messages, hc, hg⟩

/-- Every message that is found is stored under a normal tag. -/
theorem mem_locales_of_get? {locale : String} (h : s.get? key locale = some template) :
    normalize locale ∈ s.locales := by
  cases hc : s.catalogs[normalize locale]? with
  | none => simp [get?, messages, hc] at h
  | some messages => exact mem_locales_iff.mpr ⟨messages, hc⟩

theorem ne_of_compare_ne {α : Type} {a b : String × α} (h : ¬compare a.1 b.1 = .eq) : a.1 ≠ b.1 :=
  fun he => h (Std.LawfulEqCmp.compare_eq_iff_eq.mpr he)

/-- No two entries have both tag and key in common. -/
theorem pairwise_entries (s : Store) :
    s.entries.Pairwise fun a b => (a.1, a.2.1) ≠ (b.1, b.2.1) := by
  rw [entries, List.pairwise_flatMap]
  constructor
  · intro c _
    rw [List.pairwise_map]
    refine Std.TreeMap.distinct_keys_toList.imp fun hd he => ?_
    exact ne_of_compare_ne hd (Prod.mk.inj he).2
  · refine Std.TreeMap.distinct_keys_toList.imp fun hd a ha b hb he => ?_
    obtain ⟨m, -, rfl⟩ := List.mem_map.mp ha
    obtain ⟨m', -, rfl⟩ := List.mem_map.mp hb
    exact ne_of_compare_ne hd (Prod.mk.inj he).1

end WikiMessage.Catalog.Store
