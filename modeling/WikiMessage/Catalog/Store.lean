import WikiMessage.Catalog.LoadError
import WikiMessage.Locale.Tag

/-!
# Catalogs of messages

A store holds a catalog of templates for each locale. Loading adds to it: the members of a JSON
object are messages of one locale, and an object among them is a section for the locale of its
name. Members are taken in the order of their names. When loading fails, what was added before the
failure stays.
-/

namespace WikiMessage.Catalog

/-- The templates of one locale by key. -/
abbrev Messages := Std.TreeMap String String

/-- The catalogs by normal tag. -/
structure Store where
  catalogs : Std.TreeMap String Messages

namespace Store

def empty : Store := ⟨∅⟩

instance : Inhabited Store := ⟨empty⟩

/-- The messages of a locale; there are none for a locale without a catalog. -/
def messages (s : Store) (locale : String) : Messages :=
  s.catalogs[Locale.normalize locale]?.getD ∅

def get? (s : Store) (key locale : String) : Option String := (s.messages locale)[key]?

def hasLocale (s : Store) (locale : String) : Bool :=
  s.catalogs.contains (Locale.normalize locale)

/-- The keys of a locale's messages, in order. -/
def keys (s : Store) (locale : String) : List String := (s.messages locale).keys

/-- The normal tags of the locales with a catalog, in order. -/
def locales (s : Store) : List String := s.catalogs.keys

/-- Adds a message, in place of the one of the same key and locale. -/
def insert (s : Store) (locale key template : String) : Store :=
  ⟨s.catalogs.insert (Locale.normalize locale) ((s.messages locale).insert key template)⟩

/-- Letters and digits of ASCII, `-` and `_`, at least one of them. -/
def isLocale (tag : String) : Bool :=
  !tag.isEmpty && tag.toList.all fun c => c.isAlphanum || c = '-' || c = '_'

/-- Members whose names begin with `@` are not messages. -/
def isMetadata (key : String) : Bool := key.toList.head? = some '@'

/-- A store and the number of messages that were added to it, or why no more were added. -/
abbrev Loaded := Store × Except LoadError Nat

/-- Goes on loading after so many messages, unless it has failed. -/
def Loaded.andThen (l : Loaded) (next : Store → Loaded) : Loaded :=
  match l with
  | (s, .error e) => (s, .error e)
  | (s, .ok n) =>
    match next s with
    | (s, .error e) => (s, .error e)
    | (s, .ok m) => (s, .ok (n + m))

mutual

/-- Loads one member of a locale's messages. -/
def loadMember (s : Store) (locale key : String) : Json → Loaded
  | .string template => (s.insert locale key template, .ok 1)
  | .object members =>
    if isLocale key then loadMembers s key members else (s, .error (.invalidLocale key))
  | found => (s, .error (.messageNotText key locale found))

/-- Loads members one after another. -/
def loadMembers (s : Store) (locale : String) : List (String × Json) → Loaded
  | [] => (s, .ok 0)
  | (key, value) :: members =>
    if isMetadata key then loadMembers s locale members
    else
      (loadMember s locale key value).andThen fun s => loadMembers s locale members

end

/-- Loads the messages of a locale. -/
def loadLocale (s : Store) (locale : String) (members : List (String × Json)) : Loaded :=
  if isLocale locale then loadMembers s locale members else (s, .error (.invalidLocale locale))

/-- Loads sections, each an object of messages for the locale of its name. -/
def loadSections (s : Store) : List (String × Json) → Loaded
  | [] => (s, .ok 0)
  | (locale, value) :: members =>
    if isMetadata locale then loadSections s members
    else
      match value with
      | .object messages =>
        (loadLocale s locale messages).andThen fun s => loadSections s members
      | found => (s, .error (.sectionNotAnObject locale found))

/-- Loads a JSON object: messages of the locale, or sections if there is none. -/
def load (s : Store) (source : Json) (locale : Option String) : Loaded :=
  match source.sorted with
  | .object members =>
    match locale with
    | some locale => s.loadLocale locale members
    | none => s.loadSections members
  | found => (s, .error (.notAnObject found))

end Store
end WikiMessage.Catalog
