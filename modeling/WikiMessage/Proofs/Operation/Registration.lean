import WikiMessage.Proofs.Catalog.WellFormed
import WikiMessage.Proofs.Evaluation.Outcome
import WikiMessage.Proofs.Language.Data
import WikiMessage.Proofs.Operation.Suggestion
import WikiMessage.Proofs.Text.SmallLetters

/-!
# Calls after registrations

Operations are registered one after another under names in any letters. A call runs the one that was
registered last under a spelling of its name, and a built-in one if there is none. Registered names
are kept in small letters, which are their own small letters, so that the names of a registry are
names that can be called, all of them, and what is suggested for an unknown name is no unknown one.
-/

namespace WikiMessage

open Markup Operation Text

namespace Operation

/-- A name as it was written, and the operation for it. -/
abbrev Registration := String × Handler

namespace Registry

def registerAll (r : Registry) (regs : List Registration) : Registry :=
  regs.foldl (fun r reg => r.insert reg.1 reg.2) r

/-- The registry after registrations, first to last. -/
def ofList (regs : List Registration) : Registry := empty.registerAll regs

variable {r : Registry} {regs before after : List Registration} {name spelling : String}
  {handler : Handler}

theorem get?_empty (name : String) : empty.get? name = none := by
  simp [get?, empty]

theorem ofList_append_cons (before : List Registration) (spelling : String) (handler : Handler)
    (after : List Registration) :
    ofList (before ++ (spelling, handler) :: after) =
      ((ofList before).insert spelling handler).registerAll after := by
  rw [ofList, registerAll, List.foldl_append, List.foldl_cons]
  rfl

/-- Registrations of other names do not touch a name. -/
theorem get?_registerAll (h : ∀ reg ∈ regs, lower reg.1 ≠ lower name) :
    (r.registerAll regs).get? name = r.get? name := by
  induction regs generalizing r with
  | nil => rfl
  | cons reg regs ih =>
    obtain ⟨hn, ht⟩ := List.forall_mem_cons.mp h
    have hi := @ih (r.insert reg.1 reg.2) ht
    rwa [get?_insert, if_neg hn] at hi

theorem get?_ofList_of_last (hs : lower spelling = lower name)
    (ha : ∀ reg ∈ after, lower reg.1 ≠ lower name) :
    (ofList (before ++ (spelling, handler) :: after)).get? name = some handler := by
  rw [ofList_append_cons, get?_registerAll ha, get?_insert, if_pos hs]

theorem get?_ofList_of_forall_ne (h : ∀ reg ∈ regs, lower reg.1 ≠ lower name) :
    (ofList regs).get? name = none := by
  rw [ofList, get?_registerAll h, get?_empty]

/-- A name was never registered, or there is a last time. -/
theorem forall_ne_or_exists_last (regs : List Registration) (name : String) :
    (∀ reg ∈ regs, lower reg.1 ≠ lower name) ∨
      ∃ before spelling handler after, regs = before ++ (spelling, handler) :: after ∧
        lower spelling = lower name ∧ ∀ reg ∈ after, lower reg.1 ≠ lower name := by
  induction regs with
  | nil => exact .inl fun _ h => by cases h
  | cons reg regs ih =>
    rcases ih with h | ⟨before, spelling, handler, after, rfl, hs, ha⟩
    · by_cases hr : lower reg.1 = lower name
      · exact .inr ⟨[], reg.1, reg.2, regs, rfl, hr, h⟩
      · exact .inl (List.forall_mem_cons.mpr ⟨hr, h⟩)
    · exact .inr ⟨reg :: before, spelling, handler, after, rfl, hs, ha⟩

theorem mem_keys_foldl_insert {builtins : List Builtin} {m : Std.TreeMap String Unit} :
    name ∈ (builtins.foldl (fun m b => m.insert b.name ()) m).keys ↔
      name ∈ m.keys ∨ ∃ b ∈ builtins, b.name = name := by
  induction builtins generalizing m with
  | nil => simp
  | cons b builtins ih =>
    rw [List.foldl_cons, ih]
    simp [Std.TreeMap.mem_insert, or_assoc, or_comm]

theorem mem_names_iff :
    name ∈ r.names ↔ name ∈ r.registered ∨ ∃ b ∈ Builtin.all, b.name = name := by
  rw [names, mem_keys_foldl_insert]
  simp [registered]

theorem mem_registered_insert : name ∈ (r.insert spelling handler).registered ↔
    lower spelling = name ∨ name ∈ r.registered := by
  simp [registered, insert]

/-- The names of a registry are in small letters. -/
theorem lower_of_mem_registerAll (h : ∀ name ∈ r.registered, lower name = name) :
    ∀ name ∈ (r.registerAll regs).registered, lower name = name := by
  induction regs generalizing r with
  | nil => exact h
  | cons reg regs ih =>
    apply ih
    intro name hn
    rcases mem_registered_insert.mp hn with rfl | hn
    · exact lower_lower reg.1
    · exact h name hn

theorem lower_of_mem_names (h : name ∈ (ofList regs).names) : lower name = name := by
  rcases mem_names_iff.mp h with h | ⟨b, -, rfl⟩
  · exact lower_of_mem_registerAll (by simp [registered, empty]) name h
  · exact b.lower_name

theorem pairwise_names (r : Registry) : r.names.Pairwise (· < ·) :=
  Catalog.Store.pairwise_treeMap_keys _

end Registry
end Operation

/-- The suggestions that an unknown operation carries. -/
theorem Markup.Node.eq_suggestions_of_offence? {r : Registry} {node : Node} {name : String}
    {suggested : List String} (h : node.offence? r = some (.unknownOperation name suggested)) :
    suggested = suggestions (lower name) r.names := by
  unfold offence? at h
  split at h
  · split at h
    · cases h
    · cases h
      rfl
  · split at h <;> cases h
  · cases h

namespace Context

variable {ctx : Context} {name : String} {args : List Value}

/-- A call succeeds exactly when the small letters of its name are a name of the registry. -/
theorem exists_call_iff :
    (∃ value, ctx.call name args = .ok value) ↔ lower name ∈ ctx.registry.names := by
  rw [← failure?_eq_none_iff, failure?_call ctx name args [], Node.offence?_call_eq_none_iff,
    Registry.mem_names_iff]

/-- The context after registrations. -/
def ofRegistrations (regs : List Registration) (params : List Value) (language : Language)
    (data : LanguageData) : Context :=
  ⟨.ofList regs, params, language, data⟩

/-- What a call gives after registrations: what the operation gives that was registered last under a
spelling of its name, or a built-in one if there was none, or else an error. -/
inductive CallGives (regs : List Registration) (params : List Value) (language : Language)
    (data : LanguageData) (name : String) (args : List Value) : Except RenderError Value → Prop
  | registered {before after : List Registration} {spelling : String} {handler : Handler}
      (hr : regs = before ++ (spelling, handler) :: after) (hs : lower spelling = lower name)
      (ha : ∀ reg ∈ after, lower reg.1 ≠ lower name) :
      CallGives regs params language data name args (.ok (handler args params))
  | builtIn {b : Builtin} (hr : ∀ reg ∈ regs, lower reg.1 ≠ lower name)
      (hb : b.name = lower name) :
      CallGives regs params language data name args (.ok (b.apply data language args))
  | unknown (hr : ∀ reg ∈ regs, lower reg.1 ≠ lower name)
      (hb : ∀ b : Builtin, b.name ≠ lower name) :
      CallGives regs params language data name args
        (.error (.unknownOperation name (suggestions (lower name) (Registry.ofList regs).names)))

variable {regs : List Registration} {params : List Value} {language : Language}
  {data : LanguageData} {outcome : Except RenderError Value}

theorem CallGives.call_eq (h : CallGives regs params language data name args outcome) :
    (ofRegistrations regs params language data).call name args = outcome := by
  cases h with
  | registered hr hs ha =>
    rw [Context.call, ofRegistrations, hr, Registry.get?_ofList_of_last hs ha]
  | builtIn hr hb =>
    rw [Context.call, ofRegistrations, Registry.get?_ofList_of_forall_ne hr,
      Builtin.ofName?_of_lower_eq hb.symm]
  | unknown hr hb =>
    have hn : Builtin.ofName? name = none := by
      rw [Builtin.ofName?, List.find?_eq_none]
      intro b _ he
      exact hb b (of_decide_eq_true he)
    rw [Context.call, ofRegistrations, Registry.get?_ofList_of_forall_ne hr, hn]

theorem exists_callGives (regs : List Registration) (params : List Value) (language : Language)
    (data : LanguageData) (name : String) (args : List Value) :
    ∃ outcome, CallGives regs params language data name args outcome := by
  rcases Registry.forall_ne_or_exists_last regs name with
    hr | ⟨before, spelling, handler, after, hr, hs, ha⟩
  · by_cases hb : ∃ b : Builtin, b.name = lower name
    · obtain ⟨b, hb⟩ := hb
      exact ⟨_, .builtIn hr hb⟩
    · exact ⟨_, .unknown hr fun b he => hb ⟨b, he⟩⟩
  · exact ⟨_, .registered hr hs ha⟩

/-- What is suggested for an unknown operation can be called. -/
theorem exists_call_of_suggested {tree : Node} {suggested : List String}
    (h : (ofRegistrations regs params language data).evaluate tree =
      .error (.unknownOperation name suggested)) {other : String} (hs : other ∈ suggested)
    (args : List Value) :
    ∃ value, (ofRegistrations regs params language data).call other args = .ok value := by
  rw [← failure?_eq_some_iff, failure?_evaluate] at h
  obtain ⟨node, -, ho⟩ := List.exists_of_findSome?_eq_some h
  have hm : other ∈ (Registry.ofList regs).names :=
    mem_of_mem_suggestions (Node.eq_suggestions_of_offence? ho ▸ hs)
  have hn : lower other ∈ (ofRegistrations regs params language data).registry.names := by
    rw [Registry.lower_of_mem_names hm]
    exact hm
  exact exists_call_iff.mpr hn

/-- After any registrations a call runs what was registered last under a spelling of its name, or
else the built-in operation of that name, and fails if there is neither. The names of the registry
are in order, a call succeeds exactly if its name in small letters is one of them, and what an
unknown operation is told to be like can be called. -/
theorem call_after_registrations (regs : List Registration) (params : List Value)
    (language : Language) (data : LanguageData) :
    (∀ name args outcome, (ofRegistrations regs params language data).call name args = outcome ↔
        CallGives regs params language data name args outcome) ∧
      (Registry.ofList regs).names.Pairwise (· < ·) ∧
      (∀ name args, lower name ∈ (Registry.ofList regs).names ↔
        ∃ value, (ofRegistrations regs params language data).call name args = .ok value) ∧
      ∀ tree name suggested, (ofRegistrations regs params language data).evaluate tree =
          .error (.unknownOperation name suggested) →
        ∀ other ∈ suggested, ∀ args,
          ∃ value, (ofRegistrations regs params language data).call other args = .ok value := by
  refine ⟨fun name args outcome => ⟨fun h => ?_, CallGives.call_eq⟩, Registry.pairwise_names _,
    fun name args => ?_, fun tree name suggested h other hs args => ?_⟩
  · obtain ⟨given, hg⟩ := exists_callGives regs params language data name args
    rw [← h, hg.call_eq]
    exact hg
  · exact (@exists_call_iff (ofRegistrations regs params language data) name args).symm
  · exact exists_call_of_suggested h hs args

/-- A built-in operation is replaced twice, and suggested for a misspelt name. -/
theorem call_after_registrations_grammar :
    ∃ ctx, ctx = ofRegistrations
        [("GRAMMAR", fun _ _ => .string "first"), ("Grammar", fun _ _ => .string "second")] []
        ⟨"en", ["en"]⟩ .excerpt ∧
      ctx.call "gramMAR" [] = .ok (.string "second") ∧
      ctx.evaluate (.call "Grammer" []) = .error (.unknownOperation "Grammer" ["grammar"]) ∧
      ∃ value, ctx.call "grammar" [] = .ok value := by
  let regs : List Registration :=
    [("GRAMMAR", fun _ _ => .string "first"), ("Grammar", fun _ _ => .string "second")]
  obtain ⟨hc, -, -, hs⟩ := call_after_registrations regs [] ⟨"en", ["en"]⟩ .excerpt
  have hk : lower "Grammer" = "grammer" := by decide +kernel
  have hm : ∀ reg ∈ regs, lower reg.1 = "grammar" := by
    simp only [regs, List.forall_mem_cons, List.not_mem_nil, false_imp_iff, implies_true, and_true]
    decide +kernel
  have hg : (ofRegistrations regs [] ⟨"en", ["en"]⟩ .excerpt).call "gramMAR" [] =
      .ok (.string "second") :=
    (hc _ _ _).mpr (.registered (show regs = [regs[0]] ++ regs[1] :: [] from rfl)
      (by decide +kernel) (by simp))
  have hn : near "grammer" (Registry.ofList regs).names = ["grammar"] := by decide +kernel
  have hl : suggestions (lower "Grammer") (Registry.ofList regs).names = ["grammar"] := by
    rw [hk, suggestions_eq, ranked, hn, List.mergeSort_singleton]
    rfl
  have hu : (ofRegistrations regs [] ⟨"en", ["en"]⟩ .excerpt).call "Grammer" [] =
      .error (.unknownOperation "Grammer" ["grammar"]) := by
    rw [hc, ← hl]
    exact .unknown (fun reg hr => by rw [hm reg hr, hk]; decide)
      (by rw [hk]; intro b; cases b <;> decide)
  have he : (ofRegistrations regs [] ⟨"en", ["en"]⟩ .excerpt).evaluate (.call "Grammer" []) =
      .error (.unknownOperation "Grammer" ["grammar"]) := by
    simp only [evaluate, emit, emitAll, bind, Except.bind, hu]
    rfl
  exact ⟨_, rfl, hg, he, hs _ _ _ he "grammar" (List.mem_singleton_self _) []⟩

end Context
end WikiMessage
