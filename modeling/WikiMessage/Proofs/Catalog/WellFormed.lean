import WikiMessage.Proofs.Catalog.Log
import WikiMessage.Proofs.Locale.Plain

/-!
# What every store holds

Whatever was loaded into a store, and whether or not it could be loaded, the tags of its catalogs
are plain and normal, none of its catalogs is empty, and no key of a message is metadata. So
questions about a locale agree with one another: a locale has a catalog exactly when it has keys,
and a key exactly when it has a template.
-/

namespace WikiMessage.Catalog

open WikiMessage.Locale

/-- A catalog under a plain tag, with messages that are no metadata. -/
structure IsCatalog (tag : String) (messages : Messages) : Prop where
  isPlain : IsPlain tag
  isEmpty : messages.isEmpty = false
  isMetadata : ∀ key ∈ messages, Store.isMetadata key = false

def Assignment.IsWellFormed (a : Assignment) : Prop :=
  IsPlain a.tag ∧ Store.isMetadata a.key = false

namespace Store

def WellFormed (s : Store) : Prop :=
  ∀ tag messages, s.catalogs[tag]? = some messages → IsCatalog tag messages

theorem wellFormed_empty : empty.WellFormed := by
  intro tag messages h
  simp [empty] at h

/-- An assignment adds a key to the messages of its tag, if there are any, and changes no other
catalog. -/
theorem WellFormed.assign {s : Store} (h : s.WellFormed) {a : Assignment} (ha : a.IsWellFormed) :
    (s.assign a).WellFormed := by
  intro tag messages hm
  simp only [Store.assign, Std.TreeMap.getElem?_insert, Std.LawfulEqCmp.compare_eq_iff_eq] at hm
  split at hm
  case isFalse => exact h tag messages hm
  case isTrue ht =>
    subst ht
    obtain rfl := Option.some.inj hm
    refine ⟨ha.1, Std.TreeMap.isEmpty_insert, fun key hk => ?_⟩
    rcases Std.TreeMap.mem_insert.mp hk with hk | hk
    · rw [← Std.LawfulEqCmp.compare_eq_iff_eq.mp hk]
      exact ha.2
    · cases hc : s.catalogs[a.tag]? with
      | none => simp [hc] at hk
      | some messages =>
        rw [hc] at hk
        exact (h a.tag messages hc).isMetadata key hk

theorem WellFormed.foldl_assign {s : Store} (h : s.WellFormed) {log : List Assignment}
    (hl : ∀ a ∈ log, a.IsWellFormed) : (log.foldl Store.assign s).WellFormed := by
  induction log generalizing s with
  | nil => exact h
  | cons a log ih =>
    obtain ⟨ha, hl⟩ := List.forall_mem_cons.mp hl
    exact ih (h.assign ha) hl

/-- No event assigns what a store must not hold. -/
def AssignWellFormed (events : List Event) : Prop := ∀ a, .assign a ∈ events → a.IsWellFormed

theorem assignWellFormed_stop (e : LoadError) : AssignWellFormed [.stop e] := by
  simp [AssignWellFormed]

theorem AssignWellFormed.append {xs ys : List Event} (hx : AssignWellFormed xs)
    (hy : AssignWellFormed ys) : AssignWellFormed (xs ++ ys) :=
  fun a ha => (List.mem_append.mp ha).elim (hx a) (hy a)

theorem AssignWellFormed.enter {locale : String} {events : List Event}
    (h : isLocale locale = true → AssignWellFormed events) :
    AssignWellFormed (enter locale events) := by
  unfold Catalog.enter
  split
  case isTrue hl => exact h hl
  case isFalse => exact assignWellFormed_stop _

mutual

theorem assignWellFormed_walkMember {locale key : String} (hl : isLocale locale = true)
    (hk : isMetadata key = false) : ∀ value : Json, AssignWellFormed (walkMember locale key value)
  | .string template => by
    intro a ha
    obtain rfl := Event.assign.inj (List.mem_singleton.mp ha)
    exact ⟨isPlain_normalize hl, hk⟩
  | .object members => .enter fun hl => assignWellFormed_walkMembers hl members
  | .null => assignWellFormed_stop _
  | .bool _ => assignWellFormed_stop _
  | .integer _ => assignWellFormed_stop _
  | .float _ => assignWellFormed_stop _
  | .array _ => assignWellFormed_stop _

theorem assignWellFormed_walkMembers {locale : String} (hl : isLocale locale = true) :
    ∀ members : List (String × Json), AssignWellFormed (walkMembers locale members)
  | [] => by simp [AssignWellFormed, walkMembers]
  | (key, value) :: members => by
    rw [walkMembers]
    refine .append ?_ (assignWellFormed_walkMembers hl members)
    split
    case isTrue => simp [AssignWellFormed]
    case isFalse hk => exact assignWellFormed_walkMember hl (Bool.not_eq_true _ ▸ hk) value

end

theorem assignWellFormed_walkSection (locale : String) (value : Json) :
    AssignWellFormed (walkSection locale value) := by
  cases value with
  | object members => exact .enter fun hl => assignWellFormed_walkMembers hl members
  | _ => exact assignWellFormed_stop _

theorem assignWellFormed_walkSections (members : List (String × Json)) :
    AssignWellFormed (walkSections members) := by
  induction members with
  | nil => simp [AssignWellFormed, walkSections]
  | cons m members ih =>
    obtain ⟨locale, value⟩ := m
    rw [walkSections]
    refine .append ?_ ih
    split
    · simp [AssignWellFormed]
    · exact assignWellFormed_walkSection locale value

theorem assignWellFormed_walk (source : Json) (locale : Option String) :
    AssignWellFormed (walk source locale) := by
  unfold walk
  cases source.sorted with
  | object members =>
    cases locale with
    | some locale => exact .enter fun hl => assignWellFormed_walkMembers hl members
    | none => exact assignWellFormed_walkSections members
  | _ => exact assignWellFormed_stop _

theorem mem_of_mem_assigned {a : Assignment} {events : List Event}
    (h : a ∈ Event.assigned events) : .assign a ∈ events := by
  induction events with
  | nil => cases h
  | cons event events ih =>
    cases event with
    | stop e => cases h
    | assign b =>
      rcases List.mem_cons.mp h with rfl | h
      · exact List.mem_cons_self
      · exact List.mem_cons_of_mem _ (ih h)

theorem WellFormed.load {s : Store} (h : s.WellFormed) (source : Json) (locale : Option String) :
    (s.load source locale).1.WellFormed := by
  rw [load_eq_follow]
  exact h.foldl_assign fun a ha => assignWellFormed_walk source locale a (mem_of_mem_assigned ha)

/-- A store is well formed after any loading, also one that failed. -/
theorem wellFormed_loadAll (sources : List (Json × Option String)) :
    (loadAll sources).WellFormed :=
  List.foldlRecOn sources _ wellFormed_empty fun _ h source _ => h.load source.1 source.2

variable {s : Store} {tag key locale : String}

theorem mem_locales_iff : tag ∈ s.locales ↔ ∃ messages, s.catalogs[tag]? = some messages := by
  rw [locales, Std.TreeMap.mem_keys, Std.TreeMap.mem_iff_isSome_getElem?, Option.isSome_iff_exists]

theorem pairwise_treeMap_keys {α : Type} (t : Std.TreeMap String α) : t.keys.Pairwise (· < ·) := by
  have h := @Std.TreeMap.ordered_keys _ _ _ t _
  exact h.imp fun hc => compareOfLessAndEq_eq_lt.mp hc

theorem isSome_get?_iff : (s.get? key locale).isSome = true ↔ key ∈ s.keys locale := by
  rw [get?, keys, Std.TreeMap.mem_keys, Std.TreeMap.mem_iff_isSome_getElem?]

theorem hasLocale_iff : s.hasLocale locale = true ↔ normalize locale ∈ s.locales := by
  rw [hasLocale, Std.TreeMap.contains_iff_mem, locales, Std.TreeMap.mem_keys]

theorem messages_normalize (s : Store) (locale : String) :
    s.messages (normalize locale) = s.messages locale := by
  rw [messages, messages, normalize_normalize]

theorem get?_normalize (s : Store) (key locale : String) :
    s.get? key (normalize locale) = s.get? key locale := by
  rw [get?, messages_normalize, get?]

theorem keys_normalize (s : Store) (locale : String) :
    s.keys (normalize locale) = s.keys locale := by
  rw [keys, messages_normalize, keys]

theorem hasLocale_normalize (s : Store) (locale : String) :
    s.hasLocale (normalize locale) = s.hasLocale locale := by
  rw [hasLocale, hasLocale, normalize_normalize]

/-- Only a locale without a catalog has no keys. -/
theorem WellFormed.mem_locales_iff_keys (h : s.WellFormed) :
    normalize locale ∈ s.locales ↔ s.keys locale ≠ [] := by
  rw [mem_locales_iff, keys, messages, ne_eq, ← List.isEmpty_iff, Std.TreeMap.isEmpty_keys]
  cases hc : s.catalogs[normalize locale]? with
  | none => simp
  | some messages => simp [(h _ messages hc).isEmpty]

/-- Any loading leaves catalogs under plain tags in their normal form, each with a message and
without metadata. Tags and keys are listed in ascending order, each once, and the questions whether
a locale has a catalog, which keys it has and what the template of a key is have one answer. -/
theorem loadAll_catalogs (sources : List (Json × Option String)) :
    let s := loadAll sources
    (∀ tag messages, s.catalogs[tag]? = some messages →
      tag ≠ "" ∧
        (∀ c ∈ tag.toList, 'a' ≤ c ∧ c ≤ 'z' ∨ '0' ≤ c ∧ c ≤ '9' ∨ c = '-') ∧
        normalize tag = tag ∧ messages.isEmpty = false ∧
        ∀ (key template : String), messages[key]? = some template → key.toList.head? ≠ some '@') ∧
      s.locales.Pairwise (· < ·) ∧ (∀ locale, (s.keys locale).Pairwise (· < ·)) ∧
      ∀ locale,
        (s.hasLocale locale = true ↔ normalize locale ∈ s.locales) ∧
          (normalize locale ∈ s.locales ↔ s.keys locale ≠ []) ∧
          ∀ key, (s.get? key locale).isSome = true ↔ key ∈ s.keys locale := by
  intro s
  have hs : s.WellFormed := wellFormed_loadAll sources
  refine ⟨fun tag messages hm => ?_, pairwise_treeMap_keys _, fun _ => pairwise_treeMap_keys _,
    fun locale => ?_⟩
  · obtain ⟨ht, hn, hk⟩ := hs tag messages hm
    refine ⟨ht.ne_empty, fun c hc => isPlainChar_iff.mp (ht.isPlainChar c hc), ht.normalize_eq, hn,
      fun key template hg => ?_⟩
    have hm : key ∈ messages :=
      Std.TreeMap.mem_iff_isSome_getElem?.mpr (Option.isSome_iff_exists.mpr ⟨template, hg⟩)
    exact of_decide_eq_false (hk key hm)
  · exact ⟨hasLocale_iff, hs.mem_locales_iff_keys, fun key => isSome_get?_iff⟩

end Store
end WikiMessage.Catalog
