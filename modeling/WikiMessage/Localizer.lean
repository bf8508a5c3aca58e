import WikiMessage.Catalog.Source
import WikiMessage.Catalog.Store
import WikiMessage.Evaluation

/-!
# Localizers

A localizer has a current language, catalogs and operations. It finds the message of a key along the
fallback chain of the language and renders it. Trees of templates that were rendered are kept; when
there are too many of them, all are dropped.
-/

namespace WikiMessage

open Catalog Markup Operation

/-- The greatest number of trees that a localizer keeps. -/
def cacheCapacity : Nat := 1024

/-- The trees of templates by template. -/
abbrev TreeCache := Std.TreeMap String Node

structure Localizer where
  data : LanguageData
  language : String
  finalFallback : String
  /-- Whether brackets make links. -/
  links : Bool
  /-- The table in place of the built-in one. -/
  table : Option Locale.FallbackTable
  store : Store
  registry : Registry
  cache : TreeCache

namespace Localizer

/-- A localizer without messages. -/
def create (data : LanguageData) (language finalFallback : String) (links : Bool)
    (table : Option Locale.FallbackTable) : Localizer :=
  ⟨data, language, finalFallback, links, table, .empty, .empty, ∅⟩

def setLanguage (l : Localizer) (language : String) : Localizer := { l with language := language }

/-- The locales in which a message is looked for, in order. -/
def fallbackLocales (l : Localizer) : List String :=
  (l.table.getD .builtin).chain l.finalFallback l.language

def currentLanguage (l : Localizer) : Language := .withFallbacks l.language l.fallbackLocales

def register (l : Localizer) (name : String) (handler : Handler) : Localizer :=
  { l with registry := l.registry.insert name handler }

/-- A localizer after loading, and the number of messages loaded or why no more were. -/
abbrev Loaded := Localizer × Except LoadError Nat

/-- Loads messages of a locale, which is the current language if none is given. -/
def load (l : Localizer) (source : Json) (locale : Option String) : Loaded :=
  let (store, result) := l.store.load source (some (locale.getD l.language))
  ({ l with store := store }, result)

def loadResult (l : Localizer) (source : Except LoadError Json) (locale : Option String) : Loaded :=
  match source with
  | .ok source => l.load source locale
  | .error e => (l, .error e)

def loadText (l : Localizer) (json : String) (locale : Option String) : Loaded :=
  l.loadResult (readJson json none) locale

def loadFile (l : Localizer) (files : Files) (path : String) (locale : Option String) : Loaded :=
  l.loadResult (readJsonFile files path) locale

/-- Loads files one after another, each for the locale that its name without extension is. -/
def loadCatalogs (l : Localizer) (files : Files) (directory : String) : List String → Loaded
  | [] => (l, .ok 0)
  | name :: names =>
    match l.loadFile files (joinPath directory name) (some (splitExtension name).1) with
    | (l, .error e) => (l, .error e)
    | (l, .ok n) =>
      match loadCatalogs l files directory names with
      | (l, .error e) => (l, .error e)
      | (l, .ok m) => (l, .ok (n + m))

def isCatalog (name : String) : Bool := (splitExtension name).2 = some "json"

/-- Loads the catalogs of a directory in the order of their names. -/
def loadDirectory (l : Localizer) (files : Files) (directory : String) : Loaded :=
  match files.list directory with
  | .error cause => (l, .error (.unreadable directory cause))
  | .ok names => l.loadCatalogs files directory ((names.filter isCatalog).mergeSort (· ≤ ·))

/-- The template of a key in the first locale that has one. -/
def message? (l : Localizer) (key : String) : Option String :=
  l.fallbackLocales.findSome? fun locale => l.store.get? key locale

/-- The template of a key; a key without one is a template itself. -/
def template (l : Localizer) (key : String) : String := (l.message? key).getD key

/-- The cache with one more tree, after all others are dropped if it is full. -/
def remember (cache : TreeCache) (template : String) (tree : Node) : TreeCache :=
  (if cacheCapacity ≤ cache.size then ∅ else cache).insert template tree

/-- The tree of a template, from the cache if it is there. -/
def tree (l : Localizer) (template : String) : Localizer × Except ParseError Node :=
  match l.cache[template]? with
  | some tree => (l, .ok tree)
  | none =>
    match parse l.links template with
    | .ok tree => ({ l with cache := remember l.cache template tree }, .ok tree)
    | .error e => (l, .error e)

def context (l : Localizer) (params : List Value) : Context :=
  ⟨l.registry, params, l.currentLanguage, l.data⟩

def render (l : Localizer) (template : String) (params : List Value) :
    Localizer × Except RenderError String :=
  match l.tree template with
  | (l, .ok tree) => (l, (l.context params).evaluate tree)
  | (l, .error e) => (l, .error (.unreadable e))

/-- Renders the message of a key. -/
def format (l : Localizer) (key : String) (params : List Value) :
    Localizer × Except RenderError String :=
  l.render (l.template key) params

/-- Renders the message of a key; a template that cannot be rendered is shown as it is. -/
def localize (l : Localizer) (key : String) (params : List Value) : Localizer × String :=
  match l.format key params with
  | (l, .ok text) => (l, text)
  | (l, .error _) => (l, l.template key)

def clearCache (l : Localizer) : Localizer := { l with cache := ∅ }

end Localizer
end WikiMessage
