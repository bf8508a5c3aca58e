import Mathlib.Data.List.Basic
import WikiMessage.Proofs.Catalog.Log
import WikiMessage.Proofs.Locale.Plain
import WikiMessage.Proofs.Localizer.Message

/-!
# Messages of the current language

Messages are loaded for the current language unless a locale is given. They are found again if no
subtag of the language is empty, because then the language itself comes first in its fallback chain.
The chain of a language such as `de__POSIX` leaves the empty subtag out, while its catalog does not,
so that no message is found in it unless a fallback names it.
-/

namespace WikiMessage

open Catalog

/-- Members that are messages, and metadata of any kind. -/
def AreMessages (members : List (String × Json)) : Prop :=
  ∀ m ∈ members, Store.isMetadata m.1 = false → ∃ template, m.2 = .string template

theorem AreMessages.sorted {members : List (String × Json)} (h : AreMessages members) :
    AreMessages (Json.sortMembers (Json.sortedMembers members)) := by
  intro m hm hk
  have hs := Json.mem_of_mem_sortMembers hm
  rw [Json.sortedMembers_eq_map] at hs
  obtain ⟨m', hm', rfl⟩ := List.mem_map.mp hs
  obtain ⟨template, ht⟩ := h m' hm' hk
  exact ⟨template, by rw [ht]; rfl⟩

namespace Catalog.Store

theorem mem_of_lastTemplate? {log : List Assignment} {tag key template : String}
    (h : lastTemplate? log tag key = some template) : ⟨tag, key, template⟩ ∈ log := by
  obtain ⟨a, ha, he⟩ := List.exists_of_findSome?_eq_some h
  obtain ⟨⟨ht, hk⟩, hs⟩ := Option.ite_none_right_eq_some.mp he
  obtain rfl := Option.some.inj hs
  subst ht hk
  exact List.mem_reverse.mp ha

/-- A key that is assigned one template only has that template. -/
theorem lastTemplate?_eq_some {log : List Assignment} {a : Assignment} (h : a ∈ log)
    (hu : ∀ b ∈ log, b.tag = a.tag → b.key = a.key → b.template = a.template) :
    lastTemplate? log a.tag a.key = some a.template := by
  cases ht : lastTemplate? log a.tag a.key with
  | none =>
    have hn := List.findSome?_eq_none_iff.mp ht a (List.mem_reverse.mpr h)
    simp at hn
  | some template =>
    have hb := hu _ (mem_of_lastTemplate? ht) rfl rfl
    exact congrArg some hb

theorem mem_assigned_walkMembers {locale : String} {members : List (String × Json)}
    (h : AreMessages members) {a : Assignment} :
    a ∈ Event.assigned (walkMembers locale members) ↔
      a.tag = Locale.normalize locale ∧ isMetadata a.key = false ∧
        (a.key, .string a.template) ∈ members := by
  induction members with
  | nil => simp [walkMembers, Event.assigned]
  | cons m members ih =>
    obtain ⟨key, value⟩ := m
    obtain ⟨hm, hr⟩ := List.forall_mem_cons.mp h
    have ih := ih hr
    rw [walkMembers]
    cases hk : isMetadata key with
    | true =>
      rw [if_pos rfl, List.nil_append, ih, List.mem_cons]
      refine and_congr_right fun _ => and_congr_right fun ha => (or_iff_right ?_).symm
      rintro he
      rw [(Prod.mk.inj he).1, hk] at ha
      cases ha
    | false =>
      obtain ⟨template, rfl⟩ := hm hk
      obtain ⟨tag, key', template'⟩ := a
      rw [if_neg (by simp), walkMember, List.singleton_append, Event.assigned, List.mem_cons, ih,
        List.mem_cons]
      constructor
      · rintro (he | ⟨ht, hk', hm⟩)
        · obtain ⟨rfl, rfl, rfl⟩ := Assignment.mk.inj he
          exact ⟨rfl, hk, .inl rfl⟩
        · exact ⟨ht, hk', .inr hm⟩
      · rintro ⟨rfl, hk', he | hm⟩
        · cases he
          exact .inl rfl
        · exact .inr ⟨rfl, hk', hm⟩

variable {members : List (String × Json)} {locale key template : String}

/-- Loading messages of a locale assigns each key the last of its texts, and nothing else. -/
theorem mem_assigned_walk (hl : isLocale locale = true) (h : AreMessages members)
    {a : Assignment} : a ∈ Event.assigned (walk (.object members) (some locale)) ↔
      a.tag = Locale.normalize locale ∧ isMetadata a.key = false ∧
        (a.key, .string a.template) ∈ Json.sortMembers (Json.sortedMembers members) := by
  have hw : walk (.object members) (some locale) =
      walkMembers locale (Json.sortMembers (Json.sortedMembers members)) := if_pos hl
  rw [hw]
  exact mem_assigned_walkMembers h.sorted

theorem get?_load_messages (s : Store) (hl : isLocale locale = true) (h : AreMessages members)
    (hk : isMetadata key = false) (hm : members.reverse.lookup key = some (.string template)) :
    (s.load (.object members) (some locale)).1.get? key locale = some template := by
  have ha : (⟨Locale.normalize locale, key, template⟩ : Assignment) ∈
      Event.assigned (walk (.object members) (some locale)) :=
    (mem_assigned_walk hl h).mpr ⟨rfl, hk, Json.mem_sorted_iff.mpr (by rw [hm]; rfl)⟩
  have ht := lastTemplate?_eq_some ha fun b hb _ hbk => by
    obtain ⟨-, -, hb⟩ := (mem_assigned_walk hl h).mp hb
    have he := Json.mem_sorted_iff.mp hb
    rw [hbk, hm] at he
    exact (Json.string.inj (Option.some.inj he)).symm
  rw [get?_load, ht, Option.some_or]

/-- Other locales have the messages that they had before. -/
theorem get?_load_messages_of_ne (s : Store) (h : AreMessages members) {other : String}
    (hn : Locale.normalize other ≠ Locale.normalize locale) :
    (s.load (.object members) (some locale)).1.get? key other = s.get? key other := by
  rw [get?_load]
  cases ht : lastTemplate? (Event.assigned (walk (.object members) (some locale)))
      (Locale.normalize other) key with
  | none => rw [Option.none_or]
  | some template =>
    have hm := mem_of_lastTemplate? ht
    cases hl : isLocale locale with
    | true => exact absurd ((mem_assigned_walk hl h).mp hm).1 hn
    | false =>
      have hw : walk (.object members) (some locale) = [.stop (.invalidLocale locale)] :=
        if_neg (by simp [hl])
      rw [hw] at hm
      cases hm

end Catalog.Store

namespace Localizer

open WikiMessage.Locale

variable {l l' : Localizer} {members : List (String × Json)} {key template : String}

/-- Without an empty subtag the language itself is the first locale of its chain. -/
theorem message?_eq_of_get? (hl : Store.isLocale l.language = true)
    (hn : [] ∉ l.language.toList.splitOnP isSeparator)
    (h : l.store.get? key l.language = some template) : l.message? key = some template := by
  obtain ⟨shorter, hs⟩ := (isPlain_normalize hl).normalTruncations_eq_cons
    (mt (nil_mem_splitOnP_normalize hl).mp hn)
  rw [message?_eq, fallbackLocales, FallbackTable.chain, List.append_assoc, List.map_append,
    map_normalize_truncations, hs, List.cons_append, List.findSome?_cons]
  have hg : (l.store.catalogs[normalize l.language]?.getD ∅)[key]? = some template := h
  rw [hg]

/-- Messages of a language that the chain does not name are not found. -/
theorem message?_load_of_not_mem (l : Localizer) (h : AreMessages members)
    (hn : normalize l.language ∉ l.fallbackLocales.map normalize) (key : String) :
    (l.load (.object members) none).1.message? key = l.message? key := by
  have hg : ∀ locale ∈ l.fallbackLocales,
      (l.load (.object members) none).1.store.get? key locale = l.store.get? key locale := by
    intro locale hm
    refine Store.get?_load_messages_of_ne l.store h fun he => hn ?_
    exact List.mem_map.mpr ⟨locale, hm, he⟩
  have hf : (l.load (.object members) none).1.fallbackLocales = l.fallbackLocales := rfl
  rw [message?, message?, hf, ← List.head?_filterMap, ← List.head?_filterMap,
    List.filterMap_congr hg]

theorem isLocale_of_load {n : Nat} (h : l.load (.object members) none = (l', .ok n)) :
    Store.isLocale l.language = true := by
  have hr : (l.store.load (.object members) (some l.language)).2 = .ok n := congrArg Prod.snd h
  by_contra hl
  have he : l.store.load (.object members) (some l.language) =
      (l.store, .error (.invalidLocale l.language)) := if_neg hl
  rw [he] at hr
  cases hr

/-- A localizer without messages and fallbacks but the final one, English. -/
def bare (language : String) : Localizer :=
  create .excerpt language "en" false (some .empty)

theorem not_mem_fallbackLocales_bare {language : String} (hl : Store.isLocale language = true)
    (he : [] ∈ language.toList.splitOnP isSeparator) :
    normalize language ∉ (bare language).fallbackLocales.map normalize := by
  have hn := (nil_mem_splitOnP_normalize hl).mpr he
  have hc : (bare language).fallbackLocales = truncations language ++ [] ++ ["en"] := rfl
  rw [hc, List.append_nil, List.map_append, map_normalize_truncations, List.mem_append]
  rintro (hm | hm)
  · exact (isPlain_normalize hl).not_mem_normalTruncations hn hm
  · rw [List.mem_singleton.mp hm] at hn
    revert hn
    decide +kernel

theorem load_bare {language : String} (hl : Store.isLocale language = true) (key template : String)
    (hk : Store.isMetadata key = false) :
    ((bare language).load (.object [(key, .string template)]) none).2 = .ok 1 := by
  have hs : (Json.object [(key, .string template)]).sorted = .object [(key, .string template)] :=
    rfl
  have hr : ((bare language).load (.object [(key, .string template)]) none).2 =
      (Store.empty.load (.object [(key, .string template)]) (some language)).2 := rfl
  rw [hr, Store.load_eq_follow, walk, hs]
  dsimp only
  rw [enter, if_pos hl, walkMembers, hk]
  rfl

theorem message?_bare (language key : String) : (bare language).message? key = none :=
  List.findSome?_eq_none_iff.mpr fun locale _ => Store.get?_empty key locale

/-- Messages that were loaded for the current language are found, whatever is in the catalogs, the
cache and the fallbacks, exactly if the language has no empty subtag. A tag that is no locale has no
messages to find. -/
theorem finds_loaded_iff (language : String) :
    (∀ (l l' : Localizer) (members : List (String × Json)) (n : Nat), l.language = language →
      (∀ m ∈ members, Store.isMetadata m.1 = false → ∃ template, m.2 = .string template) →
      l.load (.object members) none = (l', .ok n) →
      ∀ key template, Store.isMetadata key = false →
        members.reverse.lookup key = some (.string template) → l'.message? key = some template) ↔
      (Store.isLocale language = true → [] ∉ language.toList.splitOnP isSeparator) := by
  constructor
  · intro h hl he
    have hm : AreMessages [("hello", .string "Hello!")] := by
      intro m hm _
      rw [List.mem_singleton.mp hm]
      exact ⟨_, rfl⟩
    have hf := h (bare language) _ _ 1 rfl hm
      (Prod.ext rfl (load_bare hl "hello" "Hello!" rfl)) "hello" "Hello!" rfl rfl
    rw [message?_load_of_not_mem _ hm (not_mem_fallbackLocales_bare hl he), message?_bare] at hf
    cases hf
  · rintro h l l' members n rfl hm hload key template hk ht
    have hl := isLocale_of_load hload
    obtain rfl : (l.load (.object members) none).1 = l' := congrArg Prod.fst hload
    exact message?_eq_of_get? hl (h hl) (Store.get?_load_messages l.store hl hm hk ht)

/-- A locale with an empty subtag: its message is loaded but not found. -/
theorem exists_loaded_not_found :
    ∃ l, (bare "de__POSIX").load (.object [("hello", .string "Hallo!")]) none = (l, .ok 1) ∧
      l.message? "hello" = none :=
  ⟨_, rfl, by decide +kernel⟩

end Localizer
end WikiMessage
