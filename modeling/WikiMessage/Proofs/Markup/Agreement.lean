import WikiMessage.Proofs.Markup.Constructs

/-!
# Constructs with other rules inside

A construct hands to the rules inside it only what is left after its first character, or an end of
that. So it is read alike with other rules for inner expressions that agree with them there. For a
call and an element the scope may differ as well, as only the rules inside look at it.
-/

namespace WikiMessage.Markup

open WikiMessage.Text Rule

variable {inner other : Scope → Rule Node} {s s' : Scope} {rule rule' : Rule Node} {cs : List Char}

theorem argument_congr (ha : Advances rule) (h : AgreeOnEnds cs rule rule') :
    argument rule cs = argument rule' cs := by
  simp only [argument, h.repeated ha]

theorem argumentAfter_congr (ha : Advances rule) (h : AgreeOnEnds cs rule rule') (mark : Char) :
    AgreeOnEnds cs (argumentAfter mark rule) (argumentAfter mark rule') := by
  intro rest hs
  cases rest with
  | nil => rfl
  | cons c rest =>
    have hr := h.of_suffix ((List.suffix_cons c rest).trans hs)
    simp only [argumentAfter, argument_congr ha hr]

theorem arguments_congr (ha : Advances rule) (h : AgreeOnEnds cs rule rule') :
    arguments rule cs = arguments rule' cs := by
  have hb := argumentAfter_congr ha h '|'
  have hab := advances_argumentAfter ha '|'
  unfold arguments
  rw [← argumentAfter_congr ha h ':' (List.suffix_refl cs), hb.repeated hab]
  cases hf : argumentAfter ':' rule cs with
  | none => rfl
  | some p => simp only [(hb.of_suffix (advances_argumentAfter ha ':' hf).1).repeated hab]

theorem call_congr (ha : Advances (inner s.argument))
    (h : AgreeOnEnds cs.tail (inner s.argument) (other s'.argument)) :
    call inner s cs = call other s' cs := by
  refine Option.bind_congr fun start hs => ?_
  obtain rfl := dropStart?_eq_some.mp hs
  have hr : start.dropWhile isNameChar <:+ '{' :: start :=
    (List.dropWhile_suffix isNameChar).trans (List.suffix_cons _ _)
  rw [arguments_congr ha (h.of_suffix hr)]

theorem element_congr (ha : Advances (inner s.element))
    (h : AgreeOnEnds cs.tail (inner s.element) (other s'.element)) :
    element inner s cs = element other s' cs := by
  refine Option.bind_congr fun p hp => ?_
  obtain ⟨start, name, mid, attributes, left, -, rfl, -⟩ := openTag_eq_some_iff.mp hp
  obtain ⟨hs, hl⟩ := advances_openTag hp
  have hr : p.2 <:+ start := (List.suffix_cons_iff.mp hs).resolve_left fun he => by simp [he] at hl
  simp only [(h.of_suffix hr).repeated ha]

theorem pageTarget_congr (hi : InnerAdvances inner)
    (h : ∀ s, AgreeOnEnds cs (inner s) (other s)) (s : Scope) :
    AgreeOnEnds cs (pageTarget inner s) (pageTarget other s) := by
  intro rest hs
  have hr := (h s.argument).of_suffix ((List.tail_suffix rest).trans hs)
  simp only [pageTarget, call_congr (hi s.argument) hr]

theorem webTarget_congr (hi : InnerAdvances inner)
    (h : ∀ s, AgreeOnEnds cs (inner s) (other s)) (s : Scope) :
    AgreeOnEnds cs (webTarget inner s) (webTarget other s) := by
  intro rest hs
  have hr := (h s.argument).of_suffix ((List.tail_suffix rest).trans hs)
  simp only [webTarget, call_congr (hi s.argument) hr]

theorem pageLabel_congr (ha : Advances rule) (h : AgreeOnEnds cs rule rule') :
    pageLabel rule cs = pageLabel rule' cs := by
  unfold pageLabel
  split
  · rw [h.repeated1 ha (List.suffix_cons _ _)]
  · rfl

theorem pageLink_congr (hi : InnerAdvances inner)
    (h : ∀ s, AgreeOnEnds cs.tail (inner s) (other s)) (s : Scope) :
    pageLink inner s cs = pageLink other s cs := by
  have ha := advances_pageTarget hi s.target
  refine ite_congr rfl (fun _ => Option.bind_congr fun start hs => ?_) fun _ => rfl
  obtain rfl := dropStart?_eq_some.mp hs
  have ht := (pageTarget_congr hi h s.target).of_suffix (List.suffix_cons '[' start)
  rw [← ht.repeated1 ha (List.suffix_refl start)]
  refine Option.bind_congr fun p hp => ?_
  have hr : p.2 <:+ '[' :: start := (ha.repeated1 hp).1.trans (List.suffix_cons _ _)
  simp only [pageLabel_congr (hi s.label) ((h s.label).of_suffix hr)]

theorem webLink_congr (hi : InnerAdvances inner)
    (h : ∀ s, AgreeOnEnds cs.tail (inner s) (other s)) (s : Scope) :
    webLink inner s cs = webLink other s cs := by
  have ha := advances_webTarget hi s.target
  refine ite_congr rfl (fun _ => Option.bind_congr fun start hs => ?_) fun _ => rfl
  obtain rfl := dropStart?_eq_some.mp hs
  rw [← (webTarget_congr hi h s.target).repeated1 ha (List.suffix_refl start)]
  refine Option.bind_congr fun p hp => ?_
  refine Option.bind_congr fun q hq => ?_
  have hr : q.2 <:+ start := (advances_spaces hq).1.trans (ha.repeated1 hp).1
  simp only [(h s.label).repeated1 (hi s.label) hr]

theorem construct_congr (hi : InnerAdvances inner)
    (h : ∀ s, AgreeOnEnds cs.tail (inner s) (other s)) (s : Scope) :
    construct inner s cs = construct other s cs := by
  simp only [construct, call_congr (hi s.argument) (h s.argument), pageLink_congr hi h,
    webLink_congr hi h, element_congr (hi s.element) (h s.element)]

end WikiMessage.Markup
