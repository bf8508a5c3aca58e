import WikiMessage.Proofs.Markup.Depth

/-!
# Progress

A rule hands a shorter text to the rules inside it, and what it leaves is shorter than what it was
given. So the grammar can do without its bounds. As equations between rules that refer to one
another it has one solution, the repetitions in it end by themselves, and a rule that fails has read
nothing.
-/

namespace WikiMessage.Markup

open WikiMessage.Text Rule

/-- The rule for an expression at whatever depth its text is nested. -/
def anyDepth (s : Scope) : Rule Node := fun cs => expression cs.length s cs

theorem advances_anyDepth : InnerAdvances anyDepth :=
  fun s cs _ _ h => advances_expression cs.length s h

theorem innerAgree_anyDepth (n : Nat) : InnerAgree n (expression n) anyDepth :=
  fun s _ hc => expression_eq_of_length_le hc (Nat.le_refl _) s

theorem construct_nil (inner : Scope → Rule Node) (s : Scope) : construct inner s [] = none := by
  simp [construct, call, placeholder, pageLink, webLink, element, openTag, textRun, stray, dropStart?,
    repeated1, repeated, many]

theorem anyDepth_eq_construct (s : Scope) (cs : List Char) :
    anyDepth s cs = construct anyDepth s cs := by
  cases cs with
  | nil => exact (construct_nil anyDepth s).symm
  | cons c cs =>
    exact construct_agree (advances_expression cs.length) (innerAgree_anyDepth cs.length) s
      (Nat.le_refl _)

/-- Rules that follow the equation agree on texts of any length, by induction on the length. -/
theorem eq_anyDepth {read : Scope → Rule Node} (h : ∀ s cs, read s cs = construct read s cs) :
    read = anyDepth := by
  have ha (n : Nat) : InnerAgree n anyDepth read := by
    induction n with
    | zero =>
      intro s cs hc
      obtain rfl := List.length_eq_zero_iff.mp (Nat.le_zero.mp hc)
      rw [h, anyDepth_eq_construct, construct_nil, construct_nil]
    | succ n ih =>
      intro s cs hc
      rw [h, anyDepth_eq_construct]
      exact construct_agree advances_anyDepth ih s hc
  funext s cs
  exact (ha cs.length s (Nat.le_refl _)).symm

/-- The rules of the grammar in all scopes, with expressions of any depth inside them. -/
inductive IsRule : {α : Type} → Rule α → Prop
  | expression (s : Scope) : IsRule (anyDepth s)
  | call (s : Scope) : IsRule (call anyDepth s)
  | placeholder : IsRule placeholder
  | pageLink (s : Scope) : IsRule (pageLink anyDepth s)
  | webLink (s : Scope) : IsRule (webLink anyDepth s)
  | pageTarget (s : Scope) : IsRule (pageTarget anyDepth s)
  | webTarget (s : Scope) : IsRule (webTarget anyDepth s)
  | textRun (plain : Char → Bool) : IsRule (textRun plain)
  | stray (s : Scope) : IsRule (stray s)
  | element (s : Scope) : IsRule (element anyDepth s)
  | openTag : IsRule openTag
  | closeTag : IsRule closeTag
  | tagAttribute : IsRule tagAttribute
  /-- An argument may be empty, but the mark in front of it is read with it. -/
  | argumentAfter (mark : Char) (s : Scope) : IsRule (argumentAfter mark (anyDepth s))
  | plainChar (plain : Char → Bool) : IsRule (plainChar plain)

theorem IsRule.advances {α : Type} {rule : Rule α} (h : IsRule rule) : Advances rule := by
  cases h with
  | expression s => exact advances_anyDepth s
  | call s => exact advances_call advances_anyDepth s
  | placeholder => exact advances_placeholder
  | pageLink s => exact advances_pageLink advances_anyDepth s
  | webLink s => exact advances_webLink advances_anyDepth s
  | pageTarget s => exact advances_pageTarget advances_anyDepth s
  | webTarget s => exact advances_webTarget advances_anyDepth s
  | textRun plain => exact advances_textRun plain
  | stray s => exact advances_stray s
  | element s => exact advances_element advances_anyDepth s
  | openTag => exact advances_openTag
  | closeTag => exact advances_closeTag
  | tagAttribute => exact advances_tagAttribute
  | argumentAfter mark s => exact advances_argumentAfter (advances_anyDepth s) mark
  | plainChar plain => exact advances_plainChar plain

/-- The choices of the grammar, with their alternatives in the order in which they are tried. -/
inductive IsChoice : Rule Node → List (Rule Node) → Prop
  | expression (s : Scope) : IsChoice (anyDepth s)
      [call anyDepth s, placeholder, pageLink anyDepth s, webLink anyDepth s, element anyDepth s,
        textRun s.isPlain, stray s]
  | pageTarget (s : Scope) : IsChoice (pageTarget anyDepth s)
      [call anyDepth s, placeholder, textRun s.argument.isPlain]
  | webTarget (s : Scope) : IsChoice (webTarget anyDepth s)
      [call anyDepth s, placeholder, textRun fun c => s.isPlain c && !isBlank c]

theorem findSome?_cons_or {α β : Type} (f : α → Option β) (a : α) (l : List α) :
    (a :: l).findSome? f = (f a).or (l.findSome? f) := by
  cases h : f a <;> simp [h]

variable {rule : Rule Node} {alternatives : List (Rule Node)}

theorem IsChoice.eq_findSome? (h : IsChoice rule alternatives) (cs : List Char) :
    rule cs = alternatives.findSome? fun r => r cs := by
  cases h with
  | expression s =>
    rw [anyDepth_eq_construct, construct_eq_or]
    simp only [findSome?_cons_or, List.findSome?_nil, Option.or_none]
  | pageTarget s =>
    simp only [Markup.pageTarget, Option.orElse_eq_orElse, Option.orElse_eq_or, findSome?_cons_or,
      List.findSome?_nil, Option.or_none]
  | webTarget s =>
    simp only [Markup.webTarget, Option.orElse_eq_orElse, Option.orElse_eq_or, findSome?_cons_or,
      List.findSome?_nil, Option.or_none]

/-- A choice reads what its first alternative does that succeeds on the text, all before it having
failed on the same text. -/
theorem IsChoice.eq_some_iff (h : IsChoice rule alternatives) {cs : List Char}
    {x : Node × List Char} : rule cs = some x ↔ ∃ failing next others,
      alternatives = failing ++ next :: others ∧ next cs = some x ∧ ∀ r ∈ failing, r cs = none := by
  rw [h.eq_findSome?, List.findSome?_eq_some_iff]

theorem IsChoice.eq_none_iff (h : IsChoice rule alternatives) {cs : List Char} :
    rule cs = none ↔ ∀ r ∈ alternatives, r cs = none := by
  rw [h.eq_findSome?, List.findSome?_eq_none_iff]

/-- An element that is not closed ends where its closing tag was looked for. -/
theorem element_of_closeTag_eq_none {s : Scope} {cs start left : List Char} {o : OpenTag}
    {children : List Node} (ho : openTag cs = some (o, start))
    (hr : Run (anyDepth s.element) start children left) (hc : closeTag left = none) :
    element anyDepth s cs =
      some (.concat (escapedTag (Rule.taken cs start) :: children), left) :=
  (element_eq_some_iff advances_anyDepth).mpr ⟨_, _, _, _, ho, hr, .inl ⟨hc, rfl, rfl⟩⟩

/-- A message is read by the rules without bounds, and what they leave of it is an end of it. -/
theorem exists_run_anyDepth (links : Bool) (message : String) :
    ∃ nodes rest, Run (anyDepth (Scope.top links)) message.toList nodes rest ∧
      rest <:+ message.toList ∧
      parse links message =
        if rest.isEmpty then .ok (.concat nodes) else .error (.ofRest message rest) := by
  have ha := advances_expression message.toList.length (Scope.top links)
  have hr : Run _ message.toList _ _ := (repeated_eq_iff ha).mp rfl
  refine ⟨_, _, ?_, hr.suffix ha, rfl⟩
  exact (innerAgree_anyDepth _ _).run ha (advances_anyDepth _) (Nat.le_refl _) hr

/-- Every rule of the grammar leaves a proper end of the text it was given. So a repetition meets no
empty match and ends where its rule fails, with what stands there left. A choice goes on at the same
place with the next of its rules when one of them fails, and an element that finds no closing tag
ends where it looked for one. The rules refer to one another, but on every text they come to an end:
there is exactly one way to follow their equation. Where a message is not read to its end, the error
is that of an end of it. -/
theorem grammar_progress :
    (∀ {α : Type} {rule : Rule α}, IsRule rule →
      Advances rule ∧ ∀ cs, Run rule cs (repeated rule cs).1 (repeated rule cs).2) ∧
      (∀ {rule : Rule Node} {alternatives : List (Rule Node)}, IsChoice rule alternatives → ∀ cs,
        (∀ x, rule cs = some x ↔ ∃ failing next others,
          alternatives = failing ++ next :: others ∧ next cs = some x ∧
            ∀ r ∈ failing, r cs = none) ∧
        (rule cs = none ↔ ∀ r ∈ alternatives, r cs = none)) ∧
      (∀ {s : Scope} {cs start left : List Char} {o : OpenTag} {children : List Node},
        openTag cs = some (o, start) → Run (anyDepth s.element) start children left →
        closeTag left = none → element anyDepth s cs =
          some (.concat (escapedTag (Rule.taken cs start) :: children), left)) ∧
      (∀ read : Scope → Rule Node,
        (∀ s cs, read s cs = construct read s cs) ↔ read = anyDepth) ∧
      ∀ links message, ∃ nodes rest, Run (anyDepth (Scope.top links)) message.toList nodes rest ∧
        rest <:+ message.toList ∧
        parse links message =
          if rest.isEmpty then .ok (.concat nodes) else .error (.ofRest message rest) := by
  refine ⟨fun h => ⟨h.advances, fun cs => (repeated_eq_iff h.advances).mp rfl⟩,
    fun h cs => ⟨fun x => h.eq_some_iff, h.eq_none_iff⟩, element_of_closeTag_eq_none,
    fun read => ⟨eq_anyDepth, ?_⟩, exists_run_anyDepth⟩
  rintro rfl
  exact anyDepth_eq_construct

/-- An opening tag without a closing one, before two braces that begin no call: the alternatives
that come before an element fail, and the element is read as text. -/
theorem grammar_progress_unclosed :
    IsRule openTag ∧ openTag "<i>a\x7b\x7bx".toList = some (⟨"i", []⟩, "a\x7b\x7bx".toList) ∧
      "a\x7b\x7bx".toList.length < "<i>a\x7b\x7bx".toList.length ∧
      closeTag "\x7b\x7bx".toList = none ∧
      anyDepth (Scope.top true) "<i>a\x7b\x7bx".toList =
        some (.concat [.text "&lt;i&gt;", .text "a"], "\x7b\x7bx".toList) := by
  obtain ⟨hrules, hchoice, hunclosed, -, -⟩ := grammar_progress
  have ho : openTag "<i>a\x7b\x7bx".toList = some (⟨"i", []⟩, "a\x7b\x7bx".toList) := rfl
  have hr : Run (anyDepth (Scope.top true).element) "a\x7b\x7bx".toList [.text "a"]
      "\x7b\x7bx".toList := .step rfl (.stop rfl)
  have he := hunclosed ho hr rfl
  refine ⟨.openTag, ho, ((hrules .openTag).1 ho).2, rfl,
    ((hchoice (.expression (Scope.top true)) _).1 _).mpr
      ⟨[call anyDepth _, placeholder, pageLink anyDepth _, webLink anyDepth _], _, _, rfl, he, ?_⟩⟩
  simp only [List.forall_mem_cons, List.not_mem_nil, false_imp_iff, implies_true, and_true]
  exact ⟨rfl, rfl, rfl, rfl⟩

end WikiMessage.Markup
