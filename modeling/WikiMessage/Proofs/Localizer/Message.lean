import WikiMessage.Localizer
import WikiMessage.Proofs.Language.Data
import WikiMessage.Proofs.Locale.Normal

/-!
# Which message is found

Catalogs and fallback lists are looked up by normal tags, while the chain of locales keeps the
spelling of the current language. Still the spelling has no say in which message is found, and no
fallback comes before a catalog for the language itself or for a beginning of it.
-/

namespace WikiMessage

namespace Locale

/-- The tag of the first `n` subtags. Blanks around a tag are no part of its subtags. -/
def beginning (tag : String) (n : Nat) : String := ofSubtags ((subtags tag).take n)

theorem FallbackTable.get_congr (table : FallbackTable) {a b : String}
    (h : normalize a = normalize b) : table.get a = table.get b := by
  rw [get, get, h]

theorem FallbackTable.map_normalize_chain (table : FallbackTable) (final : String) {a b : String}
    (h : normalize a = normalize b) :
    (table.chain final a).map normalize = (table.chain final b).map normalize := by
  have ht : (truncations a).map normalize = (truncations b).map normalize := by
    rw [map_normalize_truncations, map_normalize_truncations, h]
  rw [chain, chain, List.map_append, List.map_append, List.map_append, List.map_append, ht,
    table.get_congr h]

/-- From the longest beginning to the shortest, the first one with a value decides. -/
theorem findSome?_truncations {α : Type} {f : String → Option α} {tag : String} {n : Nat} {a : α}
    (hp : 0 < n) (hl : n ≤ (subtags tag).length) (ha : f (beginning tag n) = some a)
    (hn : ∀ m, n < m → m ≤ (subtags tag).length → f (beginning tag m) = none) :
    (truncations tag).findSome? f = some a := by
  have h : ∀ k, n ≤ k → k ≤ (subtags tag).length →
      (List.range k).reverse.findSome? (fun i => f (beginning tag (i + 1))) = some a := by
    intro k hk
    induction hk with
    | refl =>
      intro _
      obtain ⟨m, rfl⟩ := Nat.exists_eq_add_one.mpr hp
      rw [List.range_succ, List.reverse_append, List.reverse_singleton, List.singleton_append,
        List.findSome?_cons, ha]
    | @step k hk ih =>
      intro hs
      have hk' : n ≤ k := hk
      rw [List.range_succ, List.reverse_append, List.reverse_singleton, List.singleton_append,
        List.findSome?_cons, hn (k + 1) (by omega) hs]
      exact ih (by omega)
  rw [truncations, List.findSome?_map]
  exact h _ hl (Nat.le_refl _)

end Locale

namespace Localizer

open WikiMessage.Locale

theorem fallbackLocales_setLanguage (l : Localizer) (tag : String) :
    (l.setLanguage tag).fallbackLocales =
      (l.table.getD .builtin).chain l.finalFallback tag := rfl

/-- Only the normal forms of the locales count. -/
theorem message?_eq (l : Localizer) (key : String) :
    l.message? key = (l.fallbackLocales.map normalize).findSome?
      fun tag => (l.store.catalogs[tag]?.getD ∅)[key]? := by
  rw [List.findSome?_map]
  rfl

/-- The spelling of the current language has no say in which message is found. The message of the
longest beginning of the language that has one is found, whatever the fallbacks have. -/
theorem message?_of_normalize_eq (l : Localizer) (key : String) {a b : String}
    (h : normalize a = normalize b) :
    (l.setLanguage a).message? key = (l.setLanguage b).message? key ∧
      ∀ n template, 0 < n → n ≤ (subtags a).length →
        l.store.get? key (beginning a n) = some template →
        (∀ m, n < m → m ≤ (subtags a).length → l.store.get? key (beginning a m) = none) →
        (l.setLanguage a).message? key = some template := by
  constructor
  · have hc := (l.table.getD .builtin).map_normalize_chain l.finalFallback h
    rw [message?_eq, message?_eq, fallbackLocales_setLanguage, fallbackLocales_setLanguage, hc]
    rfl
  · intro n template hp hl ht hn
    have hf : (truncations a).findSome? (fun locale => l.store.get? key locale) = some template :=
      findSome?_truncations hp hl ht hn
    rw [message?, fallbackLocales_setLanguage, FallbackTable.chain, List.append_assoc,
      List.findSome?_append]
    exact Option.or_eq_some_iff.mpr (.inl hf)

/-- Greetings in two languages, the second of which is listed for American English too. -/
def greeter : Localizer :=
  { create .excerpt "en" "sv" false (some (.ofEntries [("en-us", ["sv"])])) with
    store := (Catalog.Store.empty.insert "en" "hello" "Hello!").insert "sv" "hello" "Hej!" }

theorem message?_of_normalize_eq_english :
    normalize " EN_us" = normalize "en-US" ∧
      (greeter.setLanguage " EN_us").message? "hello" =
        (greeter.setLanguage "en-US").message? "hello" ∧
      (greeter.setLanguage " EN_us").message? "hello" = some "Hello!" := by
  have h : normalize " EN_us" = normalize "en-US" := by decide +kernel
  have hl : (subtags " EN_us").length = 2 := by decide +kernel
  have ht : greeter.store.get? "hello" (beginning " EN_us" 1) = some "Hello!" := by decide +kernel
  have hn : greeter.store.get? "hello" (beginning " EN_us" 2) = none := by decide +kernel
  obtain ⟨he, hf⟩ := message?_of_normalize_eq greeter "hello" h
  refine ⟨h, he, hf 1 "Hello!" Nat.one_pos (by omega) ht fun m hm hs => ?_⟩
  have h2 : m = 2 := by omega
  rw [h2, hn]

end Localizer
end WikiMessage
