import Mathlib.Data.List.Induction
import WikiMessage.Catalog.Source

/-!
# Tables and the order of their entries

The entries of a table have names that differ, but they are taken in no order that the object of the
table would tell. Names may have one normal form, and then the entry that is taken last replaces the
others. So the object determines its table if such entries list the same locales, and else it does
not.
-/

namespace WikiMessage

open WikiMessage.Locale

namespace Locale.FallbackTable

theorem ofEntries_concat (entries : List (String × List String)) (e : String × List String) :
    ofEntries (entries ++ [e]) = (ofEntries entries).insert e.1 e.2 := by
  rw [ofEntries, List.foldl_append]
  rfl

/-- A normal tag has the list of the last entry with a name of that form. -/
theorem getElem?_ofEntries (entries : List (String × List String)) (tag : String) :
    (ofEntries entries).lists[tag]? =
      (entries.reverse.find? fun e => normalize e.1 = tag).map Prod.snd := by
  induction entries using List.reverseRecOn with
  | nil => simp [ofEntries, empty]
  | append_singleton entries e ih =>
    rw [ofEntries_concat, List.reverse_append, List.reverse_singleton, List.singleton_append,
      List.find?_cons, insert, Std.TreeMap.getElem?_insert, ih]
    by_cases h : normalize e.1 = tag
    · simp [h]
    · simp [h]

/-- Entries that list the same locales wherever their names have one normal form make up the same
table in every order. -/
theorem getElem?_ofEntries_of_perm {entries others : List (String × List String)}
    (hp : entries.Perm others)
    (h : ∀ a ∈ entries, ∀ b ∈ entries, normalize a.1 = normalize b.1 → a.2 = b.2) (tag : String) :
    (ofEntries entries).lists[tag]? = (ofEntries others).lists[tag]? := by
  rw [getElem?_ofEntries, getElem?_ofEntries]
  have hr : entries.reverse.Perm others.reverse :=
    (List.reverse_perm _).trans (hp.trans (List.reverse_perm _).symm)
  cases ha : entries.reverse.find? fun e => normalize e.1 = tag with
  | none =>
    have hn : others.reverse.find? (fun e => normalize e.1 = tag) = none :=
      List.find?_eq_none.mpr fun e he => List.find?_eq_none.mp ha e (hr.mem_iff.mpr he)
    rw [hn]
  | some a =>
    cases hb : others.reverse.find? fun e => normalize e.1 = tag with
    | none =>
      have hm := hr.mem_iff.mp (List.mem_of_find?_eq_some ha)
      have hta : normalize a.1 = tag := by simpa using List.find?_some ha
      exact absurd (decide_eq_true hta) (List.find?_eq_none.mp hb a hm)
    | some b =>
      have hma := List.mem_reverse.mp (List.mem_of_find?_eq_some ha)
      have hmb := hp.mem_iff.mpr (List.mem_reverse.mp (List.mem_of_find?_eq_some hb))
      have hta : normalize a.1 = tag := by simpa using List.find?_some ha
      have htb : normalize b.1 = tag := by simpa using List.find?_some hb
      exact congrArg some (h a hma b hmb (hta.trans htb.symm))

theorem get_ofEntries_concat (entries : List (String × List String)) (e : String × List String)
    {tag : String} (h : normalize e.1 = normalize tag) :
    (ofEntries (entries ++ [e])).get tag = e.2 := by
  rw [ofEntries_concat, get_insert, if_pos h]

/-- Tables with the same lists are the same to all questions. -/
theorem eq_of_forall_getElem? {t u : FallbackTable}
    (h : ∀ tag : String, t.lists[tag]? = u.lists[tag]?) :
    t.entries = u.entries ∧ ∀ locale, t.get locale = u.get locale ∧
      ∀ final, t.chain final locale = u.chain final locale := by
  refine ⟨(Std.TreeMap.Equiv.of_forall_constGet?_eq h).toList_eq, fun locale => ?_⟩
  have hg : t.get locale = u.get locale := congrArg (·.getD []) (h (normalize locale))
  exact ⟨hg, fun final => by rw [chain, chain, hg]⟩

end Locale.FallbackTable

namespace Catalog

/-- A table that is made of the entries of an object, taken in any order. -/
def IsTableOf (j : Json) (table : FallbackTable) : Prop :=
  ∃ entries order, tableEntries? j = some entries ∧ order.Perm (lastEntries entries) ∧
    table = .ofEntries order

/-- The table that is read is one of those of the object. -/
theorem isTableOf_readTable {text : String} {path : Option String} {table : FallbackTable}
    (h : readTable text path = .ok table) :
    ∃ j, Json.read? text = some j ∧ IsTableOf j table := by
  unfold readTable at h
  split at h
  · rename_i entries he
    cases h
    obtain ⟨j, hj, he⟩ := Option.bind_eq_some_iff.mp he
    exact ⟨j, hj, entries, _, he, List.Perm.refl _, rfl⟩
  · cases h

/-- An object determines its table exactly if no two of its names have one normal form and different
lists. -/
theorem isTableOf_unique_iff (j : Json) :
    (∀ t u, IsTableOf j t → IsTableOf j u →
      t.entries = u.entries ∧ ∀ locale, t.get locale = u.get locale ∧
        ∀ final, t.chain final locale = u.chain final locale) ↔
      ∀ entries, tableEntries? j = some entries → ∀ a ∈ lastEntries entries,
        ∀ b ∈ lastEntries entries, normalize a.1 = normalize b.1 → a.2 = b.2 := by
  constructor
  · intro h entries he a ha b hb hn
    -- either of the two may be taken last
    have hl {e : String × List String} (hm : e ∈ lastEntries entries) :
        IsTableOf j (.ofEntries ((lastEntries entries).erase e ++ [e])) :=
      ⟨entries, _, he,
        (List.perm_append_singleton _ _).trans (List.perm_cons_erase hm).symm, rfl⟩
    have hg := ((h _ _ (hl ha) (hl hb)).2 b.1).1
    rwa [FallbackTable.get_ofEntries_concat _ _ hn, FallbackTable.get_ofEntries_concat _ _ rfl]
      at hg
  · rintro h t u ⟨entries, order, he, hp, rfl⟩ ⟨entries', order', he', hp', rfl⟩
    obtain rfl := Option.some.inj (he.symm.trans he')
    have ho : ∀ a ∈ order, ∀ b ∈ order, normalize a.1 = normalize b.1 → a.2 = b.2 :=
      fun a ha b hb => h entries he a (hp.mem_iff.mp ha) b (hp.mem_iff.mp hb)
    exact FallbackTable.eq_of_forall_getElem?
      (FallbackTable.getElem?_ofEntries_of_perm (hp.trans hp'.symm) ho)

/-- Two names of Brazilian Portuguese, either of which may be the one that counts. -/
theorem exists_isTableOf_ne :
    let j : Json := .object [("pt-br", .array [.string "pt"]), ("pt_BR", .array [.string "es"])]
    ∃ t u, IsTableOf j t ∧ IsTableOf j u ∧
      t.get "pt-BR" = ["es"] ∧ t.chain "en" "pt-BR" = ["pt-BR", "pt", "es", "en"] ∧
      u.get "pt-BR" = ["pt"] ∧ u.chain "en" "pt-BR" = ["pt-BR", "pt", "pt", "en"] := by
  intro j
  have he : tableEntries? j = some [("pt-br", ["pt"]), ("pt_BR", ["es"])] := by decide +kernel
  have hl : lastEntries [("pt-br", ["pt"]), ("pt_BR", ["es"])] =
      [("pt-br", ["pt"]), ("pt_BR", ["es"])] := by decide +kernel
  refine ⟨.ofEntries [("pt-br", ["pt"]), ("pt_BR", ["es"])],
    .ofEntries [("pt_BR", ["es"]), ("pt-br", ["pt"])], ⟨_, _, he, ?_, rfl⟩, ⟨_, _, he, ?_, rfl⟩, ?_⟩
  · rw [hl]
  · rw [hl]
    exact List.Perm.swap _ _ _
  · decide +kernel

end Catalog
end WikiMessage
