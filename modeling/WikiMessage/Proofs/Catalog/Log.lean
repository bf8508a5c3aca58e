import WikiMessage.Catalog.Store
import WikiMessage.Proofs.Json.Ordered

/-!
# Loading as a log of assignments

A source is walked through in the order of its names, depth first. What is met is a template for a
key, or something that cannot be loaded; loading adds the templates that are met before the first
such thing, one after another, and counts them. So a store is what the assignments of all sources
make of the empty store, and a message is the one that was assigned last.
-/

namespace WikiMessage.Catalog

open Store

/-- A template that a key gets in the catalog of a normal tag. -/
structure Assignment where
  tag : String
  key : String
  template : String

inductive Event
  | assign (a : Assignment)
  | stop (e : LoadError)

namespace Event

/-- The assignments before the first stop. -/
def assigned : List Event → List Assignment
  | assign a :: events => a :: assigned events
  | _ => []

/-- The first stop. -/
def stop? : List Event → Option LoadError
  | [] => none
  | assign _ :: events => stop? events
  | stop e :: _ => some e

end Event

/-- Entering a section, which must be named by a locale. -/
def enter (locale : String) (events : List Event) : List Event :=
  if isLocale locale then events else [.stop (.invalidLocale locale)]

mutual

/-- What is met at a member of a locale's messages. -/
def walkMember (locale key : String) : Json → List Event
  | .string template => [.assign ⟨Locale.normalize locale, key, template⟩]
  | .object members => enter key (walkMembers key members)
  | found => [.stop (.messageNotText key locale found)]

def walkMembers (locale : String) : List (String × Json) → List Event
  | [] => []
  | (key, value) :: members =>
    (if isMetadata key then [] else walkMember locale key value) ++ walkMembers locale members

end

/-- What is met at a member that must be a section. -/
def walkSection (locale : String) : Json → List Event
  | .object members => enter locale (walkMembers locale members)
  | found => [.stop (.sectionNotAnObject locale found)]

def walkSections : List (String × Json) → List Event
  | [] => []
  | (locale, value) :: members =>
    (if isMetadata locale then [] else walkSection locale value) ++ walkSections members

/-- All that there is to meet in a source of a locale's messages, or of sections if no locale is
given. -/
def walk (source : Json) (locale : Option String) : List Event :=
  match source.sorted with
  | .object members =>
    match locale with
    | some locale => enter locale (walkMembers locale members)
    | none => walkSections members
  | found => [.stop (.notAnObject found)]

namespace Store

def assign (s : Store) (a : Assignment) : Store :=
  ⟨s.catalogs.insert a.tag ((s.catalogs[a.tag]?.getD ∅).insert a.key a.template)⟩

/-- How a walk ends, with the number of its assignments if nothing stops it. -/
def outcome (events : List Event) : Except LoadError Nat :=
  match Event.stop? events with
  | none => .ok (Event.assigned events).length
  | some e => .error e

def follow (s : Store) (events : List Event) : Loaded :=
  ((Event.assigned events).foldl assign s, outcome events)

theorem Loaded.andThen_assoc (l : Loaded) (f g : Store → Loaded) :
    (l.andThen f).andThen g = l.andThen fun s => (f s).andThen g := by
  rcases l with ⟨s, e | n⟩
  · rfl
  · simp only [Loaded.andThen]
    rcases f s with ⟨s', e | m⟩
    · rfl
    · dsimp only
      rcases g s' with ⟨s'', e | k⟩
      · rfl
      · simp only [Nat.add_assoc]

theorem Loaded.ok_zero_andThen (s : Store) (f : Store → Loaded) :
    Loaded.andThen (s, .ok 0) f = f s := by
  simp only [Loaded.andThen]
  rcases f s with ⟨s', e | m⟩
  · rfl
  · simp only [Nat.zero_add]

theorem follow_assign (s : Store) (a : Assignment) (events : List Event) :
    s.follow (.assign a :: events) = Loaded.andThen (s.assign a, .ok 1) (·.follow events) := by
  cases h : Event.stop? events with
  | none => simp [Loaded.andThen, follow, outcome, Event.assigned, Event.stop?, h, Nat.add_comm]
  | some e => simp [Loaded.andThen, follow, outcome, Event.assigned, Event.stop?, h]

theorem follow_append (s : Store) (xs ys : List Event) :
    s.follow (xs ++ ys) = (s.follow xs).andThen (·.follow ys) := by
  induction xs generalizing s with
  | nil => exact (Loaded.ok_zero_andThen s (·.follow ys)).symm
  | cons x xs ih =>
    cases x with
    | assign a => simp only [List.cons_append, follow_assign, Loaded.andThen_assoc, ih]
    | stop e => rfl

mutual

theorem loadMember_eq_follow (s : Store) (locale key : String) : ∀ value : Json,
    s.loadMember locale key value = s.follow (walkMember locale key value)
  | .string template => rfl
  | .object members => by
    rw [loadMember, walkMember, enter]
    split
    · exact loadMembers_eq_follow s key members
    · rfl
  | .null => rfl
  | .bool _ => rfl
  | .integer _ => rfl
  | .float _ => rfl
  | .array _ => rfl

theorem loadMembers_eq_follow (s : Store) (locale : String) : ∀ members : List (String × Json),
    s.loadMembers locale members = s.follow (walkMembers locale members)
  | [] => rfl
  | (key, value) :: members => by
    rw [loadMembers, walkMembers]
    split
    · exact loadMembers_eq_follow s locale members
    · have hm : (fun s : Store => s.loadMembers locale members) =
          (·.follow (walkMembers locale members)) :=
        funext fun s => loadMembers_eq_follow s locale members
      rw [follow_append, loadMember_eq_follow s locale key value, hm]

end

theorem loadLocale_eq_follow (s : Store) (locale : String) (members : List (String × Json)) :
    s.loadLocale locale members = s.follow (enter locale (walkMembers locale members)) := by
  rw [loadLocale, enter]
  split
  · exact loadMembers_eq_follow s locale members
  · rfl

theorem loadSections_eq_follow (s : Store) (members : List (String × Json)) :
    s.loadSections members = s.follow (walkSections members) := by
  induction members generalizing s with
  | nil => rfl
  | cons m members ih =>
    obtain ⟨locale, value⟩ := m
    unfold loadSections walkSections
    split
    · exact ih s
    · rw [follow_append]
      cases value with
      | object messages => simp only [loadLocale_eq_follow, walkSection, ih]
      | _ => rfl

/-- Loading follows the walk through the source. -/
theorem load_eq_follow (s : Store) (source : Json) (locale : Option String) :
    s.load source locale = s.follow (walk source locale) := by
  unfold load walk
  cases source.sorted with
  | object members =>
    cases locale with
    | some locale => exact loadLocale_eq_follow s locale members
    | none => exact loadSections_eq_follow s members
  | _ => rfl

/-- The template that was assigned last to a key of a normal tag. -/
def lastTemplate? (log : List Assignment) (tag key : String) : Option String :=
  log.reverse.findSome? fun a => if a.tag = tag ∧ a.key = key then some a.template else none

theorem get?_assign (s : Store) (a : Assignment) (key locale : String) :
    (s.assign a).get? key locale =
      if a.tag = Locale.normalize locale ∧ a.key = key then some a.template
      else s.get? key locale := by
  simp only [get?, messages, assign, Std.TreeMap.getElem?_insert,
    Std.LawfulEqCmp.compare_eq_iff_eq]
  by_cases ht : a.tag = Locale.normalize locale
  · by_cases hk : a.key = key
    · simp [ht, hk]
    · simp [ht, hk, Std.TreeMap.getElem?_insert]
  · simp [ht]

theorem lastTemplate?_cons (a : Assignment) (log : List Assignment) (tag key : String) :
    lastTemplate? (a :: log) tag key =
      (lastTemplate? log tag key).or
        (if a.tag = tag ∧ a.key = key then some a.template else none) := by
  simp [lastTemplate?, List.findSome?_append]

theorem get?_foldl_assign (log : List Assignment) (s : Store) (key locale : String) :
    (log.foldl assign s).get? key locale =
      (lastTemplate? log (Locale.normalize locale) key).or (s.get? key locale) := by
  induction log generalizing s with
  | nil => rfl
  | cons a log ih =>
    rw [List.foldl_cons, ih, get?_assign, lastTemplate?_cons, Option.or_assoc]
    by_cases h : a.tag = Locale.normalize locale ∧ a.key = key
    · rw [if_pos h, if_pos h, Option.some_or]
    · rw [if_neg h, if_neg h, Option.none_or]

/-- What a source assigns last to a key is found in place of what was found before. -/
theorem get?_load (s : Store) (source : Json) (locale : Option String) (key spelling : String) :
    (s.load source locale).1.get? key spelling =
      (lastTemplate? (Event.assigned (walk source locale)) (Locale.normalize spelling) key).or
        (s.get? key spelling) := by
  rw [load_eq_follow]
  exact get?_foldl_assign _ s key spelling

/-- The store after sources were loaded one after another, whether or not each of them could be. -/
def loadAll (sources : List (Json × Option String)) : Store :=
  sources.foldl (fun s source => (s.load source.1 source.2).1) empty

/-- The assignments of all sources, each up to where its walk stops. -/
def log (sources : List (Json × Option String)) : List Assignment :=
  sources.flatMap fun source => Event.assigned (walk source.1 source.2)

theorem loadAll_eq_foldl (sources : List (Json × Option String)) :
    loadAll sources = (log sources).foldl assign empty := by
  have hs : (fun (s : Store) (source : Json × Option String) => (s.load source.1 source.2).1) =
      fun s source => (Event.assigned (walk source.1 source.2)).foldl assign s := by
    funext s source
    rw [load_eq_follow]
    rfl
  rw [log, List.foldl_flatMap, loadAll, hs]

theorem get?_empty (key locale : String) : empty.get? key locale = none := by
  simp [get?, messages, empty]

theorem get?_loadAll (sources : List (Json × Option String)) (key locale : String) :
    (loadAll sources).get? key locale =
      lastTemplate? (log sources) (Locale.normalize locale) key := by
  rw [loadAll_eq_foldl, get?_foldl_assign, get?_empty, Option.or_none]

theorem outcome_eq_ok_iff {events : List Event} {n : Nat} :
    outcome events = .ok n ↔ Event.stop? events = none ∧ n = (Event.assigned events).length := by
  unfold outcome
  cases Event.stop? events with
  | none => simp [eq_comm]
  | some e => simp

theorem outcome_eq_error_iff {events : List Event} {e : LoadError} :
    outcome events = .error e ↔ Event.stop? events = some e := by
  unfold outcome
  cases Event.stop? events with
  | none => simp
  | some e => simp

/-- Loading into the store that any sources have made. It succeeds exactly when nothing stops the
walk through the source, which visits the members of every object in the order of their names, the
last one of each name, and it gives the number of assignments; otherwise it fails as the walk stops.
Afterwards each key has, under every spelling of a tag, the template that it was assigned last, a
source that failed having assigned what stands before its stop. -/
theorem load_follows_log (earlier : List (Json × Option String)) (source : Json)
    (locale : Option String) :
    source.sorted.Ordered ∧
      (∀ members, ∃ kept, (Json.object members).sorted = .object kept ∧
        (kept.Pairwise fun a b => a.1 < b.1) ∧
        ∀ name value, (name, value) ∈ kept ↔
          (members.reverse.lookup name).map Json.sorted = some value) ∧
      (∀ n, ((loadAll earlier).load source locale).2 = .ok n ↔
        Event.stop? (walk source locale) = none ∧
          n = (Event.assigned (walk source locale)).length) ∧
      (∀ e, ((loadAll earlier).load source locale).2 = .error e ↔
        Event.stop? (walk source locale) = some e) ∧
      ∀ key spelling, ((loadAll earlier).load source locale).1.get? key spelling =
        lastTemplate? (log (earlier ++ [(source, locale)])) (Locale.normalize spelling) key := by
  have hl : ((loadAll earlier).load source locale).1 = loadAll (earlier ++ [(source, locale)]) := by
    simp [loadAll]
  refine ⟨Json.ordered_sorted source, Json.exists_sorted_object, fun n => ?_, fun e => ?_,
    fun key spelling => ?_⟩
  · rw [load_eq_follow]
    exact outcome_eq_ok_iff
  · rw [load_eq_follow]
    exact outcome_eq_error_iff
  · rw [hl]
    exact get?_loadAll _ key spelling

/-- Two sources that were loaded before: messages in two sections, and messages of which one is a
number, behind a section for the same locale in capitals. -/
def twoSources : List (Json × Option String) :=
  [(.object [("en", .object [("hello", .string "Hello"), ("bye", .string "Bye")]),
      ("de", .object [("hello", .string "Hallo")])], none),
    (.object [("hello", .integer 1), ("EN", .object [("hello", .string "Hi")]),
      ("bye", .string "So long")], some "en")]

/-- A section for another spelling overwrites, what stands before a stop counts, and so does the
last of two members of one name. -/
theorem load_follows_log_twoSources :
    let source : Json := .object
      [("bye", .string "Bye now"), ("de", .object [("bye", .string "Bis bald")]),
        ("bye", .string "See you")]
    let loaded := (loadAll twoSources).load source (some "En")
    loaded.2 = .ok 2 ∧ loaded.1.get? "hello" " en" = some "Hi" ∧
      loaded.1.get? "bye" "EN" = some "See you" ∧ loaded.1.get? "bye" "DE" = some "Bis bald" ∧
      loaded.1.get? "hello" "de" = some "Hallo" := by
  intro source loaded
  obtain ⟨-, -, hn, -, hg⟩ := load_follows_log twoSources source (some "En")
  refine ⟨(hn 2).mpr ⟨rfl, by decide +kernel⟩, ?_, ?_, ?_, ?_⟩
  all_goals
    rw [hg]
    decide +kernel

end Store
end WikiMessage.Catalog
