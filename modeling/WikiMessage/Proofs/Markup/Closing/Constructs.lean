import WikiMessage.Proofs.Markup.Closing
import WikiMessage.Proofs.Markup.RoundTrip

/-!
# Constructs in front of a closing tag

A call, a link and a placeholder are read alike with and without a closing tag behind the text, for
what closes them stands in front of it. The children of an element and a run of text may reach it.
-/

namespace WikiMessage.Markup

open WikiMessage.Text Rule

/-- Inner expressions are read with the closing tag as they are read without it, also where only
the reading with the closing tag is among the children of an element. -/
def InnerFollows (closing : List Char) (inner : Scope → Rule Node) : Prop :=
  ∀ ⦃s s'⦄, s.Like s' → Follows closing (inner s) (inner s')

section

variable {closing : List Char} {rule rule' : Rule Node} {cs : List Char}

theorem argument_tracks (hf : Follows closing rule rule') (ha : Advances rule)
    (ha' : Advances rule') (hc : Unclosed cs) :
    Tracks closing (argument rule cs) (argument rule' (cs ++ closing)) :=
  (hf.repeated ha ha' hc).map Node.collapse

theorem follows_argumentAfter (hf : Follows closing rule rule') (ha : Advances rule)
    (ha' : Advances rule') (mark : Char) :
    Follows closing (argumentAfter mark rule) (argumentAfter mark rule') := by
  intro cs hc hs
  cases cs with
  | nil => exact absurd (isSpent_iff.mpr (.inl rfl)) hs
  | cons c cs =>
    simp only [List.cons_append, argumentAfter]
    split
    · exact .reads (argument_tracks hf ha ha' (hc.of_suffix (List.suffix_cons _ _)))
    · exact .fails

theorem arguments_tracks (h : IsClosing closing) (hf : Follows closing rule rule')
    (ha : Advances rule) (ha' : Advances rule') (hc : Unclosed cs) :
    Tracks closing (arguments rule cs) (arguments rule' (cs ++ closing)) := by
  have hbar := follows_argumentAfter hf ha ha' '|'
  have hab := advances_argumentAfter ha '|'
  have hab' := advances_argumentAfter ha' '|'
  have hn : Tracks closing (repeated (argumentAfter '|' rule) cs)
      (repeated (argumentAfter '|' rule') (cs ++ closing)) := hbar.repeated hab hab' hc
  cases cs with
  | nil =>
    obtain ⟨tail, rfl⟩ := h.begins
    exact hn
  | cons c cs =>
    by_cases hm : c = ':'
    · have ht : Unclosed cs := hc.of_suffix (List.suffix_cons _ _)
      simp only [arguments, List.cons_append, argumentAfter, if_pos hm]
      have hu : (argument rule cs).2 <:+ cs := ha.suffix_repeated cs
      rcases argument_tracks hf ha ha' ht with ⟨hs, he⟩ | ⟨hs, he⟩
      · rw [he]
        exact (hbar.repeated hab hab' (ht.of_suffix hu)).map ((argument rule cs).1 :: ·)
      · exact .spent (hs.suffix (hab.suffix_repeated _)) ((hab'.suffix_repeated _).trans he)
    · simpa only [arguments, List.cons_append, argumentAfter, if_neg hm] using hn

end

section

variable {closing : List Char} {inner : Scope → Rule Node} {s s' : Scope} {cs : List Char}

theorem dropStart?_eq_none {c : Char} {p rest : List Char} (h : c ∉ rest) :
    dropStart? (c :: p) rest = none :=
  Option.eq_none_iff_forall_ne_some.mpr fun left hl => h (by rw [dropStart?_eq_some.mp hl]; simp)

theorem call_append (h : IsClosing closing) (hi : InnerAdvances inner)
    (hf : InnerFollows closing inner) (hs : s.Like s') (hc : Unclosed cs) :
    call inner s' (cs ++ closing) = (call inner s cs).map (behind closing) := by
  simp only [call, Option.bind_eq_bind, h.dropStart? (p := ['{', '{']) (by decide)]
  cases hd : dropStart? ['{', '{'] cs with
  | none => rfl
  | some start =>
    have hn : isNameChar '<' = false := by decide
    simp only [Option.map_some, Option.bind_some, takeWhile_append_of_head (h.head hn),
      dropWhile_append_of_head (h.head hn)]
    split
    · rfl
    · have hu : Unclosed (start.dropWhile isNameChar) := by
        refine hc.of_suffix ((List.dropWhile_suffix _).trans ?_)
        rw [dropStart?_eq_some.mp hd]
        exact List.suffix_append _ _
      have ha := hi s.argument
      have hfa : Follows closing (inner s.argument) (inner s'.argument) :=
        hf (congrArg Scope.element hs.argument)
      rcases arguments_tracks h hfa ha (hi s'.argument) hu with ⟨_, he⟩ | ⟨hsp, he⟩
      · rw [he, behind, h.dropStart? (by decide)]
        cases dropStart? ['}', '}']
          (arguments (inner s.argument) (start.dropWhile isNameChar)).2 <;> rfl
      · rw [dropStart?_eq_none (not_mem_of_isSpent (by decide) hsp),
          dropStart?_eq_none (h.not_mem_of_suffix (.inl rfl) he)]
        rfl

theorem follows_targetPart (h : IsClosing closing) (hi : InnerAdvances inner)
    (hf : InnerFollows closing inner) (hs : s.Like s') (plain : Char → Bool) :
    Follows closing (targetPart inner s plain) (targetPart inner s' plain) := by
  intro cs hc hn
  rw [targetPart, targetPart, call_append h hi hf hs hc, passes_placeholder h cs]
  exact (alike_behind _).or ((alike_behind _).or (follows_textRun plain cs hc hn))

theorem follows_pageTarget (h : IsClosing closing) (hi : InnerAdvances inner)
    (hf : InnerFollows closing inner) (hs : s.Like s') :
    Follows closing (pageTarget inner s) (pageTarget inner s') := by
  rw [pageTarget_eq, pageTarget_eq, hs.argument]
  exact follows_targetPart h hi hf hs _

theorem follows_webTarget (h : IsClosing closing) (hi : InnerAdvances inner)
    (hf : InnerFollows closing inner) (hs : s.Like s') :
    Follows closing (webTarget inner s) (webTarget inner s') := by
  rw [webTarget_eq, webTarget_eq, hs.isPlain]
  exact follows_targetPart h hi hf hs _

theorem webLink_append (h : IsClosing closing) (hi : InnerAdvances inner)
    (hf : InnerFollows closing inner) (hs : s.Like s') (hc : Unclosed cs) :
    webLink inner s' (cs ++ closing) = (webLink inner s cs).map (behind closing) := by
  have hft := follows_webTarget h hi hf hs.target
  have ha := advances_webTarget hi s.target
  have ha' := advances_webTarget hi s'.target
  refine eq_map_behind (fun p hp => ?_) (fun q hq => ?_)
  · obtain ⟨node, rest⟩ := p
    obtain ⟨start, target, mid, left, label, rfl, hl, hn, rfl, ht, hr, hw, hb, hr'⟩ :=
      (webLink_eq_some_iff hi).mp hp
    have hus : Unclosed start := hc.of_suffix (List.suffix_cons _ _)
    have hum : left <:+ mid := (advances_spaces hw).1
    have hul : Unclosed left := hus.of_suffix (hum.trans (hr.suffix ha))
    have hbr : ']' ∈ left := (hr'.suffix (hi s.label)).subset List.mem_cons_self
    refine (webLink_eq_some_iff hi).mpr ⟨start ++ closing, target, mid ++ closing, left ++ closing,
      label, rfl, hs.links ▸ hl, hs.inLink ▸ hn, rfl, ht, hft.run_on ha ha' hus hr ?_, ?_, hb,
      (hf hs.label).run_on (hi _) (hi _) hul hr' ?_⟩
    · exact fun hsp => not_mem_of_isSpent (by decide) hsp (hum.subset hbr)
    · rw [passes_spaces h, hw]
      rfl
    · exact fun hsp => not_mem_of_isSpent (by decide) hsp List.mem_cons_self
  · obtain ⟨node, rest⟩ := q
    obtain ⟨start', target, mid', left', label, rfl, hl, hn, he, ht, hr, hw, hb, hr'⟩ :=
      (webLink_eq_some_iff hi).mp hq
    obtain ⟨start, rfl, rfl⟩ := h.append_eq_cons (by decide) he
    have hus : Unclosed start := hc.of_suffix (List.suffix_cons _ _)
    have hbr : ']' ∈ left' := (hr'.suffix (hi s'.label)).subset List.mem_cons_self
    obtain ⟨mid, rfl, -, hr₀⟩ := hft.run_back h ha ha' hus hr (.inr rfl)
      ((advances_spaces hw).1.subset hbr)
    rw [passes_spaces h] at hw
    obtain ⟨⟨⟨⟩, left⟩, hw₀, hwe⟩ := Option.map_eq_some_iff.mp hw
    obtain rfl : left ++ closing = left' := congrArg Prod.snd hwe
    have hul : Unclosed left :=
      hus.of_suffix ((advances_spaces hw₀).1.trans (hr₀.suffix ha))
    obtain ⟨last, hlast, hsp, hr₀'⟩ := (hf hs.label).run_back h (hi _) (hi _) hul hr' (.inr rfl)
      List.mem_cons_self
    obtain ⟨end', rfl, -⟩ := h.append_eq_cons (by decide) hlast.symm
    rw [(webLink_eq_some_iff hi).mpr ⟨start, target, mid, left, label, rfl, hs.links ▸ hl,
      hs.inLink ▸ hn, rfl, ht, hr₀, hw₀, hb, hr₀'⟩]
    rfl

/-- A label that a bracket ends is the same with the closing tag behind the text. -/
theorem pageLabel_append {rule rule' : Rule Node} (hf : Follows closing rule rule')
    (ha : Advances rule) (ha' : Advances rule') (hc : Unclosed cs) {label : Option Node}
    {rest : List Char} (h : pageLabel rule cs = some (label, rest)) (hs : ¬IsSpent rest) :
    pageLabel rule' (cs ++ closing) = some (label, rest ++ closing) := by
  rcases (pageLabel_eq_some_iff ha).mp h with ⟨nodes, start, rfl, rfl, hn, hr⟩ | ⟨rfl, rfl, hh⟩
  · exact (pageLabel_eq_some_iff ha').mpr (.inl ⟨nodes, start ++ closing, rfl, rfl, hn,
      hf.run_on ha ha' (hc.of_suffix (List.suffix_cons _ _)) hr hs⟩)
  · refine (pageLabel_eq_some_iff ha').mpr (.inr ⟨rfl, rfl, ?_⟩)
    cases rest with
    | nil => exact absurd (isSpent_iff.mpr (.inl rfl)) hs
    | cons c rest => exact hh

theorem pageLabel_of_append {rule rule' : Rule Node} (h : IsClosing closing)
    (hf : Follows closing rule rule') (ha : Advances rule) (ha' : Advances rule')
    (hc : Unclosed cs) {label : Option Node} {rest' : List Char}
    (hl : pageLabel rule' (cs ++ closing) = some (label, rest')) (hm : ']' ∈ rest') :
    ∃ rest, rest' = rest ++ closing ∧ pageLabel rule cs = some (label, rest) := by
  rcases (pageLabel_eq_some_iff ha').mp hl with ⟨nodes, start, rfl, he, hn, hr⟩ | ⟨rfl, rfl, hh⟩
  · obtain ⟨start, rfl, rfl⟩ := h.append_eq_cons (by decide) he
    obtain ⟨rest, rfl, -, hr₀⟩ :=
      hf.run_back h ha ha' (hc.of_suffix (List.suffix_cons _ _)) hr (.inr rfl) hm
    exact ⟨rest, rfl, (pageLabel_eq_some_iff ha).mpr (.inl ⟨nodes, start, rfl, rfl, hn, hr₀⟩)⟩
  · refine ⟨cs, rfl, (pageLabel_eq_some_iff ha).mpr (.inr ⟨rfl, rfl, ?_⟩)⟩
    cases cs with
    | nil => simp
    | cons c cs => exact hh

theorem pageLink_append (h : IsClosing closing) (hi : InnerAdvances inner)
    (hf : InnerFollows closing inner) (hs : s.Like s') (hc : Unclosed cs) :
    pageLink inner s' (cs ++ closing) = (pageLink inner s cs).map (behind closing) := by
  have hft := follows_pageTarget h hi hf hs.target
  have ha := advances_pageTarget hi s.target
  have ha' := advances_pageTarget hi s'.target
  have hsuf (start : List Char) : start <:+ '[' :: '[' :: start :=
    (List.suffix_cons _ _).trans (List.suffix_cons _ _)
  refine eq_map_behind (fun p hp => ?_) (fun q hq => ?_)
  · obtain ⟨node, rest⟩ := p
    obtain ⟨start, target, mid, label, rfl, hl, hn, rfl, ht, hr, hb⟩ :=
      (pageLink_eq_some_iff hi).mp hp
    have hus : Unclosed start := hc.of_suffix (hsuf start)
    have hbr : ']' ∈ mid := (pageLabel_suffix (hi s.label) hb).subset List.mem_cons_self
    refine (pageLink_eq_some_iff hi).mpr ⟨start ++ closing, target, mid ++ closing, label, rfl,
      hs.links ▸ hl, hs.inLink ▸ hn, rfl, ht, hft.run_on ha ha' hus hr ?_,
      pageLabel_append (hf hs.label) (hi _) (hi _) (hus.of_suffix (hr.suffix ha)) hb ?_⟩
    · exact fun hsp => not_mem_of_isSpent (by decide) hsp hbr
    · exact fun hsp => not_mem_of_isSpent (by decide) hsp List.mem_cons_self
  · obtain ⟨node, rest⟩ := q
    obtain ⟨start', target, mid', label, rfl, hl, hn, he, ht, hr, hb⟩ :=
      (pageLink_eq_some_iff hi).mp hq
    obtain ⟨start, rfl, hst⟩ := h.append_eq_cons (by decide) he
    obtain ⟨start, rfl, rfl⟩ := h.append_eq_cons (by decide) hst.symm
    have hus : Unclosed start := hc.of_suffix (hsuf start)
    have hbr : ']' ∈ mid' := (pageLabel_suffix (hi s'.label) hb).subset List.mem_cons_self
    obtain ⟨mid, rfl, -, hr₀⟩ := hft.run_back h ha ha' hus hr (.inr rfl) hbr
    obtain ⟨last, hlast, hb₀⟩ := pageLabel_of_append h (hf hs.label) (hi _) (hi _)
      (hus.of_suffix (hr₀.suffix ha)) hb List.mem_cons_self
    obtain ⟨last, rfl, hrest⟩ := h.append_eq_cons (by decide) hlast.symm
    obtain ⟨last, rfl, -⟩ := h.append_eq_cons (by decide) hrest.symm
    rw [(pageLink_eq_some_iff hi).mpr ⟨start, target, mid, label, rfl, hs.links ▸ hl,
      hs.inLink ▸ hn, rfl, ht, hr₀, hb₀⟩]
    rfl

theorem Unclosed.closeTag (hc : Unclosed cs) : closeTag cs = none := by
  refine Option.eq_none_iff_forall_ne_some.mpr fun p hp => ?_
  obtain ⟨start, name, mid, -, rfl, -⟩ := closeTag_eq_some_iff.mp hp
  exact hc ⟨[], start, rfl⟩

/-- The closing tag closes nothing that is not read up to it. -/
theorem Unclosed.closeTag_append (h : IsClosing closing) (hc : Unclosed cs) (hn : cs ≠ []) :
    Markup.closeTag (cs ++ closing) = none := by
  refine Option.eq_none_iff_forall_ne_some.mpr fun p hp => ?_
  obtain ⟨start, name, mid, -, he, -⟩ := closeTag_eq_some_iff.mp hp
  obtain ⟨tail, rfl⟩ := h.begins
  match cs, hn with
  | [c], _ => cases he
  | c :: d :: cs, _ =>
    obtain ⟨rfl, rfl, -⟩ : c = '<' ∧ d = '/' ∧ _ := by simpa using he
    exact hc ⟨[], cs, rfl⟩

/-- An opening tag is always read, up to where its children end or beyond. -/
theorem element_eq_some_of_openTag {o : OpenTag} {start : List Char}
    (ho : openTag cs = some (o, start)) :
    ∃ p, element inner s cs = some p ∧ p.2 <:+ (repeated (inner s.element) start).2 := by
  simp only [element, Option.bind_eq_bind, ho, Option.bind_some]
  cases hc : closeTag (repeated (inner s.element) start).2 with
  | none => exact ⟨_, rfl, List.suffix_refl _⟩
  | some q =>
    have hsuf := (advances_closeTag hc).1
    dsimp only
    split
    · exact ⟨_, rfl, hsuf⟩
    · exact ⟨_, rfl, hsuf⟩

theorem element_eq_of_closeTag {o : OpenTag} {start left : List Char} {children : List Node}
    (ho : openTag cs = some (o, start))
    (hr : repeated (inner s.element) start = (children, left)) (hc : closeTag left = none) :
    element inner s cs = some (.concat (escapedTag (taken cs start) :: children), left) := by
  simp only [element, Option.bind_eq_bind, ho, Option.bind_some, hr, hc]

theorem follows_element (h : IsClosing closing) (hi : InnerAdvances inner)
    (hf : InnerFollows closing inner) (hs : s.Like s') :
    Follows closing (element inner s) (element inner s') := by
  intro cs hc hn
  cases ho : openTag cs with
  | none =>
    have ho' := passes_openTag h cs
    simp only [ho, Option.map_none] at ho'
    simp only [element, Option.bind_eq_bind, ho, ho', Option.bind_none]
    exact .fails
  | some q =>
    obtain ⟨o, start⟩ := q
    have ho' : openTag (cs ++ closing) = some (o, start ++ closing) := by
      rw [passes_openTag h, ho]
      rfl
    have hus : Unclosed start := hc.of_suffix (advances_openTag ho).1
    have ht := (hf (congrArg Scope.element hs)).repeated (hi s.element) (hi s'.element) hus
    have hul : Unclosed (repeated (inner s.element) start).2 :=
      hus.of_suffix ((hi s.element).suffix_repeated start)
    rw [element_eq_of_closeTag ho rfl hul.closeTag]
    rcases ht with ⟨hsp, he⟩ | ⟨hsp, he⟩
    · have hne : (repeated (inner s.element) start).2 ≠ [] :=
        fun hnil => hsp (isSpent_iff.mpr (.inl hnil))
      rw [element_eq_of_closeTag ho' he (hul.closeTag_append h hne), taken_append]
      exact .reads (.on hsp rfl)
    · obtain ⟨p, hp, hsuf⟩ : ∃ p, element inner s' (cs ++ closing) = some p ∧
          p.2 <:+ (repeated (inner s'.element) (start ++ closing)).2 :=
        element_eq_some_of_openTag ho'
      rw [hp]
      exact .reads (.spent hsp (hsuf.trans he))

theorem follows_construct (h : IsClosing closing) (hi : InnerAdvances inner)
    (hf : InnerFollows closing inner) : InnerFollows closing (construct inner) := by
  intro s s' hs cs hc hn
  rw [construct_eq_or, construct_eq_or, call_append h hi hf hs hc, passes_placeholder h,
    pageLink_append h hi hf hs hc, webLink_append h hi hf hs hc, ← hs.isPlain]
  exact (alike_behind _).or ((alike_behind _).or ((alike_behind _).or ((alike_behind _).or
    ((follows_element h hi hf hs cs hc hn).or ((follows_textRun _ cs hc hn).or
      (follows_stray h hs cs hc hn))))))

end

theorem follows_expression {closing : List Char} (h : IsClosing closing) (depth : Nat) :
    InnerFollows closing (expression depth) := by
  induction depth with
  | zero => exact fun _ _ _ _ _ _ => .fails
  | succ depth ih => exact follows_construct h (advances_expression depth) ih

end WikiMessage.Markup
