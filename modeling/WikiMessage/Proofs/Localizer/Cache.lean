import WikiMessage.Proofs.Localizer.Session

/-!
# The cache of a localizer

The cache cannot be seen in any reply. Each of its entries is the tree of its own template, because
a tree depends on the template and on whether brackets make links, and no request changes that; so a
localizer answers a session as one without a cache does. Nor does the cache outgrow its capacity.
-/

namespace WikiMessage.Localizer

open Markup Operation

def withCache (l : Localizer) (cache : TreeCache) : Localizer := { l with cache := cache }

theorem template_withCache (l : Localizer) (cache : TreeCache) (key : String) :
    (l.withCache cache).template key = l.template key := rfl

/-- Every entry is the tree of its template, and there are not too many of them. -/
structure Coherent (l : Localizer) : Prop where
  size_le : l.cache.size ≤ cacheCapacity
  parsed : ∀ template tree, l.cache[template]? = some tree → parse l.links template = .ok tree

/-- A step that does not look at the cache and changes neither it, nor the reading of brackets, nor
the data of languages. -/
structure IgnoresCache {α : Type} (step : Localizer → Localizer × α) : Prop where
  data (l : Localizer) : (step l).1.data = l.data
  links (l : Localizer) : (step l).1.links = l.links
  cache (l : Localizer) : (step l).1.cache = l.cache
  withCache (l : Localizer) (cache : TreeCache) :
    step (l.withCache cache) = ((step l).1.withCache cache, (step l).2)

section

variable {α β : Type} {step : Localizer → Localizer × α}

theorem IgnoresCache.map (h : IgnoresCache step) (f : α → β) :
    IgnoresCache fun l => (step l).map id f where
  data := h.data
  links := h.links
  cache := h.cache
  withCache l cache := by
    rw [h.withCache]
    rfl

theorem Coherent.of_ignoresCache {l : Localizer} (hl : l.Coherent) (h : IgnoresCache step) :
    (step l).1.Coherent where
  size_le := by
    rw [h.cache]
    exact hl.size_le
  parsed := by
    rw [h.cache, h.links]
    exact hl.parsed

end

/-- Goes on after so many messages, unless loading has failed. -/
def Loaded.andThen (r : Loaded) (next : Localizer → Loaded) : Loaded :=
  match r with
  | (l, .error e) => (l, .error e)
  | (l, .ok n) =>
    match next l with
    | (l, .error e) => (l, .error e)
    | (l, .ok m) => (l, .ok (n + m))

theorem loadCatalogs_cons (l : Localizer) (files : Catalog.Files) (directory name : String)
    (names : List String) : l.loadCatalogs files directory (name :: names) =
      (l.loadFile files (Catalog.joinPath directory name)
        (some (Catalog.splitExtension name).1)).andThen
        fun l => l.loadCatalogs files directory names := rfl

theorem Loaded.fst_andThen (r : Loaded) (next : Localizer → Loaded) :
    (r.andThen next).1 = r.1 ∨ (r.andThen next).1 = (next r.1).1 := by
  rcases r with ⟨l, e | n⟩
  · exact .inl rfl
  · right
    unfold andThen
    dsimp only
    rcases next l with ⟨l', e | m⟩ <;> rfl

/-- What loading each of the files keeps, loading all of them keeps, also if one cannot be loaded. -/
theorem loadCatalogs_induction {P : Localizer → Prop} {files : Catalog.Files} {directory : String}
    {names : List String} (step : ∀ name ∈ names, ∀ l : Localizer, P l →
      P (l.loadFile files (Catalog.joinPath directory name)
        (some (Catalog.splitExtension name).1)).1)
    {l : Localizer} (h : P l) : P (l.loadCatalogs files directory names).1 := by
  induction names generalizing l with
  | nil => exact h
  | cons name names ih =>
    obtain ⟨hn, hr⟩ := List.forall_mem_cons.mp step
    rw [loadCatalogs_cons]
    rcases Loaded.fst_andThen _ fun l => l.loadCatalogs files directory names with he | he
    · rw [he]
      exact hn l h
    · rw [he]
      exact ih hr (hn l h)

theorem loadDirectory_induction {P : Localizer → Prop} {files : Catalog.Files} {directory : String}
    (step : ∀ names, files.list directory = .ok names → ∀ name ∈ names, isCatalog name = true →
      ∀ l : Localizer, P l → P (l.loadFile files (Catalog.joinPath directory name)
        (some (Catalog.splitExtension name).1)).1)
    {l : Localizer} (h : P l) : P (l.loadDirectory files directory).1 := by
  unfold loadDirectory
  cases hf : files.list directory with
  | error cause => exact h
  | ok names =>
    refine loadCatalogs_induction (fun name hm => ?_) h
    obtain ⟨hm, hi⟩ := List.mem_filter.mp (List.mem_mergeSort.mp hm)
    exact step names hf name hm hi

theorem ignoresCache_load (source : Json) (locale : Option String) :
    IgnoresCache fun l => l.load source locale :=
  ⟨fun _ => rfl, fun _ => rfl, fun _ => rfl, fun _ _ => rfl⟩

theorem ignoresCache_loadResult (source : Except Catalog.LoadError Json) (locale : Option String) :
    IgnoresCache fun l => l.loadResult source locale := by
  cases source with
  | ok source => exact ignoresCache_load source locale
  | error e => exact ⟨fun _ => rfl, fun _ => rfl, fun _ => rfl, fun _ _ => rfl⟩

theorem ignoresCache_andThen {first second : Localizer → Loaded} (hf : IgnoresCache first)
    (hs : IgnoresCache second) : IgnoresCache fun l => (first l).andThen second where
  data l := by
    rcases (first l).fst_andThen second with h | h
    · rw [h, hf.data]
    · rw [h, hs.data, hf.data]
  links l := by
    rcases (first l).fst_andThen second with h | h
    · rw [h, hf.links]
    · rw [h, hs.links, hf.links]
  cache l := by
    rcases (first l).fst_andThen second with h | h
    · rw [h, hf.cache]
    · rw [h, hs.cache, hf.cache]
  withCache l cache := by
    unfold Loaded.andThen
    rw [hf.withCache]
    rcases first l with ⟨l', e | n⟩
    · rfl
    · dsimp only
      rw [hs.withCache]
      rcases second l' with ⟨l'', e | m⟩ <;> rfl

theorem ignoresCache_loadCatalogs (files : Catalog.Files) (directory : String)
    (names : List String) : IgnoresCache fun l => l.loadCatalogs files directory names := by
  induction names with
  | nil => exact ⟨fun _ => rfl, fun _ => rfl, fun _ => rfl, fun _ _ => rfl⟩
  | cons name names ih =>
    simp only [loadCatalogs_cons]
    exact ignoresCache_andThen (ignoresCache_loadResult _ _) ih

theorem ignoresCache_loadDirectory (files : Catalog.Files) (directory : String) :
    IgnoresCache fun l => l.loadDirectory files directory := by
  unfold loadDirectory
  cases files.list directory with
  | ok names => exact ignoresCache_loadCatalogs files directory _
  | error cause => exact ⟨fun _ => rfl, fun _ => rfl, fun _ => rfl, fun _ _ => rfl⟩

theorem ignoresCache_answerAnew (r : Request) : IgnoresCache fun l => l.answerAnew r := by
  cases r with
  | loadText json locale => exact (ignoresCache_loadResult _ _).map _
  | loadFile files path locale => exact (ignoresCache_loadResult _ _).map _
  | loadDirectory files directory => exact (ignoresCache_loadDirectory files directory).map _
  | _ => exact ⟨fun _ => rfl, fun _ => rfl, fun _ => rfl, fun _ _ => rfl⟩

theorem ignoresCache_runAnew (requests : List Request) :
    IgnoresCache fun l => l.runAnew requests := by
  induction requests with
  | nil => exact ⟨fun _ => rfl, fun _ => rfl, fun _ => rfl, fun _ _ => rfl⟩
  | cons r requests ih =>
    have hr := ignoresCache_answerAnew r
    constructor
    · exact fun l => (ih.data _).trans (hr.data l)
    · exact fun l => (ih.links _).trans (hr.links l)
    · exact fun l => (ih.cache _).trans (hr.cache l)
    · intro l cache
      have ha := hr.withCache l cache
      have hs := ih.withCache (l.answerAnew r).1 cache
      simp only [runAnew_cons, ha, hs]

theorem coherent_create (data : LanguageData) (language finalFallback : String) (links : Bool)
    (table : Option Locale.FallbackTable) :
    (create data language finalFallback links table).Coherent where
  size_le := Nat.zero_le _
  parsed template tree h := by simp [create] at h

theorem coherent_clearCache (l : Localizer) : l.clearCache.Coherent where
  size_le := Nat.zero_le _
  parsed template tree h := by simp [clearCache] at h

theorem size_remember_le (cache : TreeCache) (template : String) (tree : Node) :
    (remember cache template tree).size ≤ cacheCapacity := by
  have hi : (remember cache template tree).size ≤
      (if cacheCapacity ≤ cache.size then ∅ else cache : TreeCache).size + 1 :=
    Std.TreeMap.size_insert_le
  by_cases hf : cacheCapacity ≤ cache.size
  · rw [if_pos hf, Std.TreeMap.size_emptyc] at hi
    exact Nat.le_trans hi (by decide)
  · rw [if_neg hf] at hi
    exact Nat.le_trans hi (Nat.lt_of_not_le hf)

/-- The new entry is the only one that was not there before. -/
theorem getElem?_remember {cache : TreeCache} {template other : String} {tree found : Node}
    (h : (remember cache template tree)[other]? = some found) :
    (template = other ∧ tree = found) ∨ cache[other]? = some found := by
  simp only [remember, Std.TreeMap.getElem?_insert, Std.LawfulEqCmp.compare_eq_iff_eq] at h
  by_cases he : template = other
  · rw [if_pos he] at h
    exact .inl ⟨he, Option.some.inj h⟩
  · rw [if_neg he] at h
    split at h
    · simp at h
    · exact .inr h

variable {l : Localizer}

theorem Coherent.remember (h : l.Coherent) {template : String} {tree : Node}
    (hp : parse l.links template = .ok tree) :
    (l.withCache (remember l.cache template tree)).Coherent where
  size_le := size_remember_le l.cache template tree
  parsed other found hf := by
    rcases getElem?_remember hf with ⟨rfl, rfl⟩ | hf
    · exact hp
    · exact h.parsed other found hf

/-- A tree is what parsing gives, whether it was kept or not; only the cache may change. -/
theorem Coherent.tree_eq (h : l.Coherent) (template : String) :
    ∃ cache, (l.withCache cache).Coherent ∧
      l.tree template = (l.withCache cache, parse l.links template) := by
  cases hc : l.cache[template]? with
  | some tree =>
    refine ⟨l.cache, h, ?_⟩
    rw [Localizer.tree, hc, h.parsed template tree hc]
    rfl
  | none =>
    cases hp : parse l.links template with
    | ok tree =>
      refine ⟨_, h.remember hp, ?_⟩
      rw [Localizer.tree, hc, hp]
      rfl
    | error e =>
      refine ⟨l.cache, h, ?_⟩
      rw [tree, hc, hp]
      rfl

theorem Coherent.render_eq (h : l.Coherent) (template : String) (params : List Value) :
    ∃ cache, (l.withCache cache).Coherent ∧
      l.render template params = (l.withCache cache, l.renderAnew template params) := by
  obtain ⟨cache, hc, ht⟩ := h.tree_eq template
  refine ⟨cache, hc, ?_⟩
  rw [render, ht, renderAnew, Context.render]
  cases parse l.links template <;> rfl

theorem Coherent.localize_eq (h : l.Coherent) (key : String) (params : List Value) :
    ∃ cache, (l.withCache cache).Coherent ∧
      l.localize key params =
        (l.withCache cache, shown (l.template key) (l.renderAnew (l.template key) params)) := by
  obtain ⟨cache, hc, hr⟩ := h.render_eq (l.template key) params
  refine ⟨cache, hc, ?_⟩
  rw [localize, format, hr]
  cases l.renderAnew (l.template key) params with
  | ok text => rfl
  | error e =>
    dsimp only [shown]
    rw [template_withCache]

/-- One request is answered as without a cache, and the localizer after it differs in its cache
only. -/
theorem Coherent.answer_eq (h : l.Coherent) (r : Request) :
    ∃ cache, ((l.answerAnew r).1.withCache cache).Coherent ∧
      l.answer r = ((l.answerAnew r).1.withCache cache, (l.answerAnew r).2) := by
  have hs : (l.answerAnew r).1.Coherent := h.of_ignoresCache (ignoresCache_answerAnew r)
  cases r with
  | format key params =>
    obtain ⟨cache, hc, hr⟩ := h.render_eq (l.template key) params
    refine ⟨cache, hc, ?_⟩
    rw [answer, format, hr]
    rfl
  | localize key params =>
    obtain ⟨cache, hc, hr⟩ := h.localize_eq key params
    refine ⟨cache, hc, ?_⟩
    rw [answer, hr]
    rfl
  | render template params =>
    obtain ⟨cache, hc, hr⟩ := h.render_eq template params
    refine ⟨cache, hc, ?_⟩
    rw [answer, hr]
    rfl
  | clearCache => exact ⟨∅, coherent_clearCache l, rfl⟩
  | _ => exact ⟨_, hs, rfl⟩

theorem Coherent.run_eq (h : l.Coherent) (requests : List Request) :
    ∃ cache, ((l.runAnew requests).1.withCache cache).Coherent ∧
      l.run requests = ((l.runAnew requests).1.withCache cache, (l.runAnew requests).2) := by
  induction requests generalizing l with
  | nil => exact ⟨l.cache, h, rfl⟩
  | cons r requests ih =>
    obtain ⟨cache, hc, hr⟩ := h.answer_eq r
    obtain ⟨cache', hc', hs⟩ := ih hc
    have hi := (ignoresCache_runAnew requests).withCache (l.answerAnew r).1 cache
    rw [hi] at hc' hs
    refine ⟨cache', hc', ?_⟩
    simp only [run_cons, hr, hs]
    rfl

/-- The cache cannot be seen. Whatever was asked of a localizer before, in whatever order and with
whatever success, its replies are those of one without a cache, and it differs from that one in
nothing but the cache. So rendering gives what parsing the template anew and evaluating it with the
operations and the language of the moment gives, errors included. The cache holds no more entries
than it may, each the tree of its template. -/
theorem run_eq_runAnew (data : LanguageData) (language finalFallback : String) (links : Bool)
    (table : Option Locale.FallbackTable) (requests : List Request) :
    let start := create data language finalFallback links table
    let l := (start.run requests).1
    (start.run requests).2 = (start.runAnew requests).2 ∧
      l = (start.runAnew requests).1.withCache l.cache ∧
      (∀ template params,
        (l.render template params).2 = (l.context params).render links template) ∧
      l.cache.size ≤ cacheCapacity ∧
      ∀ template tree, l.cache[template]? = some tree → parse links template = .ok tree := by
  intro start l
  obtain ⟨cache, hc, hr⟩ :=
    (coherent_create data language finalFallback links table).run_eq requests
  have hl : l = (start.runAnew requests).1.withCache cache := congrArg Prod.fst hr
  have hk : l.links = links := by
    rw [hl]
    exact (ignoresCache_runAnew requests).links start
  have hcoh : l.Coherent := hl ▸ hc
  refine ⟨?_, ?_, ?_, hcoh.size_le, ?_⟩
  · exact congrArg (fun r => r.2) hr
  · rw [hl]
    rfl
  · intro template params
    obtain ⟨_, -, ht⟩ := hcoh.render_eq template params
    rw [ht, renderAnew, hk]
  · rw [← hk]
    exact hcoh.parsed

end WikiMessage.Localizer
