import Mathlib.Data.List.Nodup
import WikiMessage.Proofs.Catalog.Entries
import WikiMessage.Proofs.Catalog.Path
import WikiMessage.Proofs.Evaluation.Outcome
import WikiMessage.Proofs.Language.Data
import WikiMessage.Proofs.Localizer.Cache
import WikiMessage.Report.Check

/-!
# What checking catalogs finds

A check finds each file that cannot be loaded and each message that cannot be parsed, once for each
time the file is listed, and it counts all messages of the files that can be loaded. When it finds
nothing, a localizer can load the files in any order, each for the locale of its name, and parse
whatever it holds then: of the messages that files have in common it keeps the one of the file that
was loaded last, and the check has seen that message in that file.
-/

namespace WikiMessage

open Catalog Markup WikiMessage.Locale

namespace Report

/-- What is wrong with a file: it cannot be loaded, or a message in one of its catalogs cannot be
parsed. -/
inductive Fails (files : Files) (links : Bool) (path : String) : Failure → Prop
  | file {e : LoadError} (h : loadCatalog files path = .error e) :
      Fails files links path (.file path e)
  | message {store : Store} {locale key template : String} {e : ParseError}
      (h : loadCatalog files path = .ok store) (hl : locale ∈ store.locales)
      (ht : store.get? key locale = some template) (hp : parse links template = .error e) :
      Fails files links path (.message path locale key e)

/-- The messages of a file that can be loaded. -/
def messagesIn (files : Files) (path : String) : List (String × String × String) :=
  match loadCatalog files path with
  | .ok store => store.entries
  | .error _ => []

variable {files : Files} {links : Bool} {path : String} {store : Store}

theorem loadCatalog_eq_ok_iff : loadCatalog files path = .ok store ↔
    ∃ source n, readJsonFile files path = .ok source ∧
      Store.empty.load source (some (ownLocale path)) = (store, .ok n) := by
  rw [loadCatalog, ← ownLocale]
  cases readJsonFile files path with
  | error e => simp
  | ok source =>
    rcases hl : Store.empty.load source (some (ownLocale path)) with ⟨store', e | n⟩
    · simp [hl]
    · simp [hl]

theorem wellFormed_of_loadCatalog (h : loadCatalog files path = .ok store) : store.WellFormed := by
  obtain ⟨source, n, -, hl⟩ := loadCatalog_eq_ok_iff.mp h
  have hs : (Store.empty.load source (some (ownLocale path))).1 = store := congrArg Prod.fst hl
  rw [← hs]
  exact Store.wellFormed_empty.load source _

/-- The messages that are checked are those that are stored. -/
theorem messagesOf_eq_entries (h : store.WellFormed) : messagesOf store = store.entries := by
  rw [messagesOf, Store.entries, Store.locales, ← Std.TreeMap.map_fst_toList_eq_keys,
    List.flatMap_map]
  refine List.flatMap_congr fun c hc => ?_
  obtain ⟨tag, messages⟩ := c
  have hm := h.messages_eq (Std.TreeMap.mem_toList_iff_getElem?_eq_some.mp hc)
  dsimp only
  rw [Store.keys, hm, ← Std.TreeMap.map_fst_toList_eq_keys, List.filterMap_map,
    ← List.filterMap_eq_map]
  refine List.filterMap_congr fun m hk => ?_
  obtain ⟨key, template⟩ := m
  rw [Function.comp, Function.comp, Store.get?, hm,
    Std.TreeMap.mem_toList_iff_getElem?_eq_some.mp hk]
  rfl

/-- The failure of an entry, if it cannot be parsed. -/
def entryFailure? (links : Bool) (path : String) (entry : String × String × String) :
    Option Failure :=
  match parse links entry.2.2 with
  | .ok _ => none
  | .error e => some (.message path entry.1 entry.2.1 e)

theorem entryFailure?_eq_some_iff {entry : String × String × String} {f : Failure} :
    entryFailure? links path entry = some f ↔
      ∃ e, parse links entry.2.2 = .error e ∧ f = .message path entry.1 entry.2.1 e := by
  unfold entryFailure?
  cases parse links entry.2.2 with
  | ok tree => simp
  | error e => simp [eq_comm]

theorem checkFile_of_error {e : LoadError} (h : loadCatalog files path = .error e) :
    checkFile files links path = ⟨0, [.file path e]⟩ := by
  rw [checkFile, h]

theorem checkFile_of_ok (h : loadCatalog files path = .ok store) :
    checkFile files links path =
      ⟨store.entries.length, store.entries.filterMap (entryFailure? links path)⟩ := by
  rw [checkFile, h]
  dsimp only
  rw [checkStore, messagesOf_eq_entries (wellFormed_of_loadCatalog h)]
  rfl

theorem checked_checkFile :
    (checkFile files links path).checked = (messagesIn files path).length := by
  cases h : loadCatalog files path with
  | error e => rw [checkFile_of_error h, messagesIn, h, List.length_nil]
  | ok store => rw [checkFile_of_ok h, messagesIn, h]

theorem mem_failures_checkFile {f : Failure} :
    f ∈ (checkFile files links path).failures ↔ Fails files links path f := by
  cases h : loadCatalog files path with
  | error e =>
    rw [checkFile_of_error h, List.mem_singleton]
    constructor
    · rintro rfl
      exact .file h
    · intro hf
      cases hf with
      | file h' =>
        rw [h] at h'
        rw [Except.error.inj h']
      | message h' _ _ _ =>
        rw [h] at h'
        cases h'
  | ok store =>
    have hw := wellFormed_of_loadCatalog h
    rw [checkFile_of_ok h]
    simp only [List.mem_filterMap, entryFailure?_eq_some_iff]
    constructor
    · rintro ⟨⟨tag, key, template⟩, hm, e, hp, rfl⟩
      obtain ⟨hl, ht⟩ := hw.mem_entries_iff_get?.mp hm
      exact .message h hl ht hp
    · intro hf
      cases hf with
      | file h' =>
        rw [h] at h'
        cases h'
      | @message store' locale key template e h' hl ht hp =>
        rw [h] at h'
        obtain rfl := Except.ok.inj h'
        exact ⟨(locale, key, template), hw.mem_entries_iff_get?.mpr ⟨hl, ht⟩, e, hp, rfl⟩

theorem nodup_failures_checkFile : (checkFile files links path).failures.Nodup := by
  cases h : loadCatalog files path with
  | error e =>
    rw [checkFile_of_error h]
    exact List.nodup_singleton _
  | ok store =>
    rw [checkFile_of_ok h]
    refine List.pairwise_filterMap.mpr (store.pairwise_entries.imp fun hd f hf f' hf' he => hd ?_)
    obtain ⟨e, -, rfl⟩ := entryFailure?_eq_some_iff.mp hf
    obtain ⟨e', -, rfl⟩ := entryFailure?_eq_some_iff.mp hf'
    obtain ⟨-, ht, hk, -⟩ := Failure.message.inj he
    exact Prod.ext ht hk

theorem checked_checkFiles (paths : List String) :
    (checkFiles files links paths).checked = (paths.flatMap (messagesIn files)).length := by
  induction paths with
  | nil => rfl
  | cons path paths ih =>
    rw [List.flatMap_cons, List.length_append, ← ih, ← @checked_checkFile files links]
    rfl

theorem failures_checkFiles (paths : List String) :
    (checkFiles files links paths).failures =
      paths.flatMap fun path => (checkFile files links path).failures := by
  induction paths with
  | nil => rfl
  | cons path paths ih =>
    rw [List.flatMap_cons, ← ih]
    rfl

theorem code_check (wording : FaultWording) (files : Files) (o : CheckOptions) :
    (check wording files o).code = success ↔ (checkFiles files o.links o.files).failures = [] := by
  have hc : (check wording files o).code =
      if (checkFiles files o.links o.files).failures.isEmpty then success else badData := by
    unfold check
    dsimp only
    split
    · rfl
    · split <;> rfl
  rw [hc, ← List.isEmpty_iff]
  cases (checkFiles files o.links o.files).failures.isEmpty with
  | true => simp
  | false => simp [success, badData]

/-- The file can be loaded, and all messages of its catalogs can be parsed. -/
def IsSound (files : Files) (links : Bool) (path : String) : Prop :=
  ∃ store, loadCatalog files path = .ok store ∧
    ∀ key locale template, store.get? key locale = some template →
      ∃ tree, parse links template = .ok tree

theorem isSound_iff : IsSound files links path ↔ ∀ f, ¬Fails files links path f := by
  constructor
  · rintro ⟨store, h, hp⟩ f hf
    cases hf with
    | file h' =>
      rw [h] at h'
      cases h'
    | message h' hl ht he =>
      rw [h] at h'
      obtain rfl := Except.ok.inj h'
      obtain ⟨tree, hn⟩ := hp _ _ _ ht
      rw [he] at hn
      cases hn
  · intro hn
    cases h : loadCatalog files path with
    | error e => exact absurd (.file h) (hn _)
    | ok store =>
      refine ⟨store, h, fun key locale template ht => ?_⟩
      cases hp : parse links template with
      | ok tree => exact ⟨tree, rfl⟩
      | error e =>
        have hl := Store.mem_locales_of_get? ht
        exact absurd (.message h hl ((store.get?_normalize key locale).trans ht) hp) (hn _)

theorem code_check_iff (wording : FaultWording) (files : Files) (o : CheckOptions) :
    (check wording files o).code = success ↔ ∀ path ∈ o.files, IsSound files o.links path := by
  rw [code_check, failures_checkFiles, List.flatMap_eq_nil_iff]
  refine forall₂_congr fun path _ => ?_
  rw [isSound_iff, List.eq_nil_iff_forall_not_mem]
  exact forall_congr' fun f => not_congr mem_failures_checkFile

/-- Every message of the store is in the catalogs of one of the files. -/
def FromFiles (files : Files) (paths : List String) (s : Store) : Prop :=
  ∀ key locale template, s.get? key locale = some template →
    ∃ path ∈ paths, ∃ store, loadCatalog files path = .ok store ∧
      store.get? key locale = some template

variable {paths : List String} {l : Localizer}

/-- Of each message that the file has, the store has the file's template afterwards. -/
theorem FromFiles.loadFile (h : FromFiles files paths l.store) (hp : path ∈ paths)
    (hc : loadCatalog files path = .ok store) :
    FromFiles files paths (l.loadFile files path (some (ownLocale path))).1.store := by
  obtain ⟨source, n, hr, hl⟩ := loadCatalog_eq_ok_iff.mp hc
  have hs : (l.loadFile files path (some (ownLocale path))).1.store =
      (l.store.load source (some (ownLocale path))).1 := by
    rw [Localizer.loadFile, hr]
    rfl
  intro key locale template ht
  have hg : store.get? key locale =
      Store.lastTemplate? (Event.assigned (walk source (some (ownLocale path))))
        (normalize locale) key := by
    have hf : (Store.empty.load source (some (ownLocale path))).1 = store := congrArg Prod.fst hl
    rw [← hf, Store.get?_load, Store.get?_empty, Option.or_none]
  rw [hs, Store.get?_load, ← hg] at ht
  rcases Option.or_eq_some_iff.mp ht with ht | ⟨-, ht⟩
  · exact ⟨path, hp, store, hc, ht⟩
  · exact h key locale template ht

end Report

/-- A request that loads nothing but some of the files, each for the locale of its name: one file at
a time, or the catalogs of a directory. A name in a directory has no slash. -/
def Request.LoadsOnly (files : Files) (paths : List String) : Request → Prop
  | .load _ _ => False
  | .loadText _ _ => False
  | .loadFile files' path locale => files' = files ∧ path ∈ paths ∧ locale = some (ownLocale path)
  | .loadDirectory files' directory => files' = files ∧
      ∀ names, files.list directory = .ok names → ∀ name ∈ names, Localizer.isCatalog name = true →
        '/' ∉ name.toList ∧ joinPath directory name ∈ paths
  | _ => True

namespace Report

variable {files : Files} {links : Bool} {path : String} {paths : List String} {l : Localizer}

theorem FromFiles.answerAnew (h : FromFiles files paths l.store)
    (hc : ∀ path ∈ paths, ∃ store, loadCatalog files path = .ok store) {r : Request}
    (hr : r.LoadsOnly files paths) : FromFiles files paths (l.answerAnew r).1.store := by
  cases r with
  | load source locale => exact hr.elim
  | loadText json locale => exact hr.elim
  | loadFile files' path locale =>
    obtain ⟨rfl, hp, rfl⟩ := hr
    obtain ⟨store, hs⟩ := hc path hp
    exact h.loadFile hp hs
  | loadDirectory files' directory =>
    obtain ⟨rfl, hn⟩ := hr
    refine Localizer.loadDirectory_induction (P := fun l => FromFiles files' paths l.store)
      (fun names hl name hm hi l h => ?_) h
    obtain ⟨hs, hp⟩ := hn names hl name hm hi
    obtain ⟨store, hc⟩ := hc _ hp
    rw [← ownLocale_joinPath directory hs hi]
    exact h.loadFile hp hc
  | _ => exact h

theorem FromFiles.runAnew (h : FromFiles files paths l.store)
    (hc : ∀ path ∈ paths, ∃ store, loadCatalog files path = .ok store) {requests : List Request}
    (hr : ∀ r ∈ requests, r.LoadsOnly files paths) :
    FromFiles files paths (l.runAnew requests).1.store := by
  induction requests generalizing l with
  | nil => exact h
  | cons r requests ih =>
    obtain ⟨hr, hrs⟩ := List.forall_mem_cons.mp hr
    rw [Localizer.runAnew_cons]
    exact ih (h.answerAnew hc hr) hrs

theorem fromFiles_create (data : LanguageData) (language finalFallback : String)
    (table : Option FallbackTable) :
    FromFiles files paths (Localizer.create data language finalFallback links table).store := by
  intro key locale template h
  rw [Localizer.create, Store.get?_empty] at h
  cases h

/-- What a file gives does not depend on what was loaded before it. -/
theorem exists_loadFile_eq_ok {store : Store} (l : Localizer)
    (hc : loadCatalog files path = .ok store) :
    ∃ n, (l.loadFile files path (some (ownLocale path))).2 = .ok n := by
  obtain ⟨source, n, hr, hl⟩ := loadCatalog_eq_ok_iff.mp hc
  have hs : (l.loadFile files path (some (ownLocale path))).2 =
      (l.store.load source (some (ownLocale path))).2 := by
    rw [Localizer.loadFile, hr]
    rfl
  have he : (Store.empty.load source (some (ownLocale path))).2 =
      Store.outcome (walk source (some (ownLocale path))) := by
    rw [Store.load_eq_follow]
    rfl
  refine ⟨n, ?_⟩
  rw [hs, Store.load_eq_follow]
  exact he.symm.trans (congrArg Prod.snd hl)

/-- A localizer whose messages are in sound files can parse each of them. -/
theorem FromFiles.render_ne_unreadable (h : FromFiles files paths l.store) (hl : l.Coherent)
    (hs : ∀ path ∈ paths, IsSound files l.links path) {key locale template : String}
    (ht : l.store.get? key locale = some template) (params : List Value) (e : ParseError) :
    (l.render template params).2 ≠ .error (.unreadable e) := by
  intro he
  obtain ⟨path, hp, store, hc, hg⟩ := h key locale template ht
  obtain ⟨store', hc', htree⟩ := hs path hp
  rw [hc] at hc'
  obtain rfl := Except.ok.inj hc'
  obtain ⟨tree, hn⟩ := htree key locale template hg
  obtain ⟨_, -, hr⟩ := hl.render_eq template params
  rw [hr, Localizer.renderAnew, Context.render_eq_unreadable_iff, hn] at he
  cases he

/-- A check succeeds exactly when every file can be loaded and every message of it can be parsed. It
counts the messages of the files that can be loaded, and it finds what fails in each file once; its
JSON is the number of messages and a list of what fails, of each file that cannot be loaded with the
reason and of each message that cannot be parsed with its place. After a check that succeeded a
localizer can load each of the files at any time, and whichever of them it has loaded, in whatever
order, it can parse every message that it holds. -/
theorem check_exact (wording : FaultWording) (files : Files) (o : CheckOptions) :
    let r := checkFiles files o.links o.files
    ((check wording files o).code = 0 ↔
      ∀ path ∈ o.files, ∃ store, loadCatalog files path = .ok store ∧
        ∀ key locale template, store.get? key locale = some template →
          ∃ tree, parse o.links template = .ok tree) ∧
      (o.json = true → ∃ report : Failure → Json,
        (check wording files o).output = line (Json.print (.object
          [("checked", .integer r.checked), ("failures", .array (r.failures.map report))])) ∧
        (∀ path error, report (.file path error) = .object
          [("file", .string path), ("message", .string (error.message wording))]) ∧
        ∀ path locale key error, report (.message path locale key error) = .object
          [("file", .string path), ("locale", .string locale), ("key", .string key),
            ("offset", .integer error.offset), ("message", .string error.reason)]) ∧
      r.checked = (o.files.flatMap (messagesIn files)).length ∧
      (∃ failures : String → List Failure, r.failures = o.files.flatMap failures ∧
        ∀ path, (failures path).Nodup ∧ ∀ f, f ∈ failures path ↔ Fails files o.links path f) ∧
      ((check wording files o).code = 0 →
        ∀ data language finalFallback table requests,
          (∀ q ∈ requests, Request.LoadsOnly files o.files q) →
          let l := ((Localizer.create data language finalFallback o.links table).run requests).1
          (∀ path ∈ o.files, ∃ n, (l.loadFile files path (some (ownLocale path))).2 = .ok n) ∧
            ∀ key locale template, l.store.get? key locale = some template →
              ∀ params e, (l.render template params).2 ≠ .error (.unreadable e)) := by
  intro r
  refine ⟨code_check_iff wording files o,
    fun hj => ⟨Failure.toJson wording, ?_, fun _ _ => rfl, fun _ _ _ _ => rfl⟩,
    checked_checkFiles o.files, ⟨_, failures_checkFiles o.files, fun path =>
      ⟨nodup_failures_checkFile, fun f => mem_failures_checkFile⟩⟩,
    fun h data language finalFallback table requests hq => ?_⟩
  · rw [check, hj]
    rfl
  · intro l
    have hc := (code_check_iff wording files o).mp h
    have hload : ∀ path ∈ o.files, ∃ store, loadCatalog files path = .ok store := by
      intro path hp
      obtain ⟨store, hs, -⟩ := hc path hp
      exact ⟨store, hs⟩
    obtain ⟨cache, hcoh, hrun⟩ :=
      (Localizer.coherent_create data language finalFallback o.links table).run_eq requests
    have hl : l = (Localizer.runAnew _ requests).1.withCache cache := congrArg Prod.fst hrun
    have hlinks : l.links = o.links := by
      rw [hl]
      exact (Localizer.ignoresCache_runAnew requests).links _
    have hfrom : FromFiles files o.files l.store := by
      rw [hl]
      exact (fromFiles_create data language finalFallback table).runAnew hload hq
    constructor
    · intro path hp
      obtain ⟨store, hs⟩ := hload path hp
      exact exists_loadFile_eq_ok l hs
    · intro key locale template ht
      exact hfrom.render_ne_unreadable (hl ▸ hcoh) (hlinks ▸ hc) ht

/-- Two files with a message in common. -/
def twoFiles : Files := .ofFound
  [("de.json", .ok "\x7b\"hello\": \"Hallo, $1!\"\x7d"),
    ("en.json", .ok "\x7b\"de\": \x7b\"hello\": \"Hallo!\"\x7d, \"hello\": \"Hello, $1!\"\x7d")] []

theorem check_exact_twoFiles :
    let wording : FaultWording := fun _ => "expected value at line 1 column 1"
    (check wording twoFiles ⟨["de.json", "en.json"], true, true⟩).code = 0 ∧
      let l := ((Localizer.create .excerpt "de" "en" true none).run
        [.loadFile twoFiles "en.json" (some "en"), .loadFile twoFiles "de.json" (some "de")]).1
      l.store.get? "hello" "de" = some "Hallo, $1!" ∧
        ∀ params e, (l.render "Hallo, $1!" params).2 ≠ .error (.unreadable e) := by
  intro wording
  obtain ⟨-, -, -, -, h⟩ := check_exact wording twoFiles ⟨["de.json", "en.json"], true, true⟩
  dsimp only at h
  have hc : (check wording twoFiles ⟨["de.json", "en.json"], true, true⟩).code = 0 := by
    decide +kernel
  have hq : ∀ q ∈ [Request.loadFile twoFiles "en.json" (some "en"),
      .loadFile twoFiles "de.json" (some "de")], q.LoadsOnly twoFiles ["de.json", "en.json"] := by
    have he : some "en" = some (ownLocale "en.json") := by decide +kernel
    have hd : some "de" = some (ownLocale "de.json") := by decide +kernel
    simp [Request.LoadsOnly, ← he, ← hd]
  have ht : ((Localizer.create .excerpt "de" "en" true none).run
      [.loadFile twoFiles "en.json" (some "en"),
        .loadFile twoFiles "de.json" (some "de")]).1.store.get? "hello" "de" =
          some "Hallo, $1!" := by
    decide +kernel
  exact ⟨hc, ht, (h hc .excerpt "de" "en" none _ hq).2 "hello" "de" _ ht⟩

end Report
end WikiMessage
