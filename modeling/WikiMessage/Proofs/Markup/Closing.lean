import WikiMessage.Proofs.Markup.Boundary

/-!
# A closing tag behind a text

A text in which no closing tag begins is read alike with and without a closing tag behind it, as
long as something is left of it. Only where the text is read to its end, or to a last backslash,
does the closing tag matter; and then it is too late for any construct that a brace or a bracket has
to close.
-/

namespace WikiMessage.Text

theorem dropStart?_append {start behind : List Char} (h : ∀ c ∈ behind.head?, c ∉ start)
    (cs : List Char) :
    dropStart? start (cs ++ behind) = (dropStart? start cs).map (· ++ behind) := by
  induction start generalizing cs with
  | nil => rfl
  | cons p start ih =>
    have ht : ∀ c ∈ behind.head?, c ∉ start := fun c hc hm => h c hc (List.mem_cons_of_mem _ hm)
    cases cs with
    | nil =>
      cases behind with
      | nil => rfl
      | cons c behind =>
        have hc : p ≠ c := by
          rintro rfl
          exact h p rfl List.mem_cons_self
        simp [dropStart?, hc]
    | cons c cs =>
      simp only [List.cons_append, dropStart?]
      split
      · exact ih ht cs
      · rfl

theorem cutAt?_append {mark : Char} {behind : List Char} (h : mark ∉ behind) (cs : List Char) :
    cutAt? mark (cs ++ behind) = (cutAt? mark cs).map fun p => (p.1, p.2 ++ behind) := by
  induction cs with
  | nil =>
    rw [List.nil_append]
    refine Option.eq_none_iff_forall_ne_some.mpr fun p hp => h ?_
    rw [(cutAt?_eq_some.mp hp).2]
    simp
  | cons c cs ih =>
    simp only [List.cons_append, cutAt?, ih]
    split
    · rfl
    · cases cutAt? mark cs <;> rfl

theorem dropWhile_append_of_head {p : Char → Bool} {behind : List Char}
    (h : ∀ c ∈ behind.head?, p c = false) (cs : List Char) :
    (cs ++ behind).dropWhile p = cs.dropWhile p ++ behind := by
  rw [List.dropWhile_append, dropWhile_eq_self h]
  split
  · rename_i hn
    rw [List.isEmpty_iff.mp hn, List.nil_append]
  · rfl

theorem takeWhile_append_of_head {p : Char → Bool} {behind : List Char}
    (h : ∀ c ∈ behind.head?, p c = false) (cs : List Char) :
    (cs ++ behind).takeWhile p = cs.takeWhile p := by
  have hb : behind.takeWhile p = [] := by
    cases behind with
    | nil => rfl
    | cons c behind => simp [h c rfl]
  rw [List.takeWhile_append, hb, List.append_nil]
  split
  · rename_i hl
    exact ((List.takeWhile_prefix p).eq_of_length hl).symm
  · rfl

theorem Rule.taken_append (cs rest behind : List Char) :
    Rule.taken (cs ++ behind) (rest ++ behind) = Rule.taken cs rest := by
  have hl : (cs ++ behind).length - (rest ++ behind).length = cs.length - rest.length := by
    simp only [List.length_append]
    omega
  rw [Rule.taken, Rule.taken, hl, List.take_append_of_le_length (Nat.sub_le _ _)]

end WikiMessage.Text

namespace WikiMessage.Markup

open WikiMessage.Text Rule

/-- The text is a closing tag and nothing else. -/
def IsClosing (closing : List Char) : Prop := ∃ tag, closeTag closing = some (tag, [])

theorem IsClosing.begins {closing : List Char} (h : IsClosing closing) :
    ∃ tail, closing = '<' :: '/' :: tail := by
  obtain ⟨tag, h⟩ := h
  obtain ⟨start, name, mid, -, rfl, -⟩ := closeTag_eq_some_iff.mp h
  exact ⟨start, rfl⟩

/-- A closing tag ends no call, no link and no value of an attribute. -/
theorem IsClosing.not_mem {closing : List Char} (h : IsClosing closing) :
    ∀ c ∈ ['}', ']', '\x22', '\x27'], c ∉ closing := by
  obtain ⟨tag, h⟩ := h
  obtain ⟨start, name, mid, -, rfl, hw, he⟩ := closeTag_eq_some_iff.mp h
  obtain ⟨d, tail, rfl, rfl, hd, ht, -⟩ := word_eq_some_iff.mp hw
  intro c hc hm
  have hmid : c ∈ mid → isSpace c = true ∨ c = '>' := by
    intro hm
    rw [← List.takeWhile_append_dropWhile (p := isSpace) (l := mid), he, List.mem_append,
      List.mem_singleton] at hm
    exact hm.imp_left (List.all_eq_true.mp List.all_takeWhile c)
  have hchar : c.isAlphanum = true ∨ isSpace c = true ∨ c ∈ ['<', '/', '>'] := by
    rcases List.mem_cons.mp hm with rfl | hm
    · simp
    rcases List.mem_cons.mp hm with rfl | hm
    · simp
    rcases List.mem_cons.mp hm with rfl | hm
    · exact .inl (by simp [Char.isAlphanum, hd])
    rcases List.mem_append.mp hm with hm | hm
    · exact .inl (ht c hm)
    · rcases hmid hm with h | rfl
      · exact .inr (.inl h)
      · simp
  simp only [List.mem_cons, List.not_mem_nil, or_false] at hc
  rcases hc with rfl | rfl | rfl | rfl <;> revert hchar <;> decide

section

variable {α β : Type} {closing : List Char}

/-- What was read, and the rest with the closing tag behind it. -/
def behind (closing : List Char) (p : α × List Char) : α × List Char := (p.1, p.2 ++ closing)

/-- The rule does not mind the closing tag behind a text. -/
def Passes (closing : List Char) (rule : Rule α) : Prop :=
  ∀ cs, rule (cs ++ closing) = (rule cs).map (behind closing)

theorem Passes.run {rule : Rule α} (h : Passes closing rule) {cs rest : List Char} {as : List α}
    (hr : Run rule cs as rest) : Run rule (cs ++ closing) as (rest ++ closing) := by
  induction hr with
  | stop hn => exact .stop (by rw [h, hn]; rfl)
  | step hs _ ih => exact .step (by rw [h, hs]; rfl) ih

theorem IsClosing.head (h : IsClosing closing) {p : Char → Bool} (hp : p '<' = false) :
    ∀ c ∈ closing.head?, p c = false := by
  obtain ⟨tail, rfl⟩ := h.begins
  rintro c ⟨⟩
  exact hp

/-- What begins a text with the closing tag behind it begins the text itself, unless it can begin
the closing tag. -/
theorem IsClosing.append_eq_cons (h : IsClosing closing) {c : Char} (hc : c ≠ '<')
    {cs rest : List Char} (he : cs ++ closing = c :: rest) :
    ∃ tail, cs = c :: tail ∧ rest = tail ++ closing := by
  cases cs with
  | nil =>
    obtain ⟨tail, rfl⟩ := h.begins
    exact absurd (List.cons.inj he).1.symm hc
  | cons d tail =>
    obtain ⟨rfl, rfl⟩ := List.cons.inj he
    exact ⟨tail, rfl, rfl⟩

theorem IsClosing.dropStart? (h : IsClosing closing) {p : List Char} (hp : '<' ∉ p)
    (cs : List Char) :
    Text.dropStart? p (cs ++ closing) = (Text.dropStart? p cs).map (· ++ closing) := by
  obtain ⟨tail, rfl⟩ := h.begins
  refine dropStart?_append ?_ cs
  rintro c ⟨⟩
  exact hp

end

section

variable {closing : List Char} (h : IsClosing closing)

include h

theorem passes_spaces : Passes closing spaces := by
  intro cs
  cases cs with
  | nil =>
    obtain ⟨tail, rfl⟩ := h.begins
    rfl
  | cons c cs =>
    simp only [List.cons_append, spaces, dropWhile_append_of_head (h.head (p := isSpace) rfl)]
    split <;> rfl

theorem passes_word {more : Char → Bool} (hm : more '<' = false) : Passes closing (word more) := by
  intro cs
  cases cs with
  | nil =>
    obtain ⟨tail, rfl⟩ := h.begins
    rfl
  | cons c cs =>
    simp only [List.cons_append, word, dropWhile_append_of_head (h.head hm),
      takeWhile_append_of_head (h.head hm)]
    split <;> rfl

theorem passes_quotedValue : Passes closing quotedValue := by
  intro cs
  cases cs with
  | nil =>
    obtain ⟨tail, rfl⟩ := h.begins
    rfl
  | cons q cs =>
    simp only [List.cons_append, quotedValue]
    split
    · rename_i hq
      simp only [Bool.or_eq_true, decide_eq_true_eq] at hq
      refine cutAt?_append (h.not_mem q ?_) cs
      rcases hq with rfl | rfl <;> simp
    · rfl

theorem passes_tagAttribute : Passes closing tagAttribute := by
  intro cs
  have hd (cs : List Char) : (cs ++ closing).dropWhile isSpace = cs.dropWhile isSpace ++ closing :=
    dropWhile_append_of_head (h.head (p := isSpace) rfl) cs
  have hw (cs : List Char) : word (fun c => c.isAlphanum || c = '-') (cs ++ closing) =
      (word (fun c => c.isAlphanum || c = '-') cs).map (behind closing) := passes_word h rfl cs
  simp only [tagAttribute, Option.bind_eq_bind, passes_spaces h cs]
  rcases spaces cs with _ | ⟨⟨⟩, start⟩
  · rfl
  simp only [Option.map_some, Option.bind_some, behind, hw]
  rcases word (fun c => c.isAlphanum || c = '-') start with _ | ⟨name, mid⟩
  · rfl
  simp only [Option.map_some, Option.bind_some, behind, hd,
    h.dropStart? (p := ['=']) (by decide)]
  rcases dropStart? ['='] (mid.dropWhile isSpace) with _ | equals
  · rfl
  simp only [Option.map_some, Option.bind_some, hd, passes_quotedValue h _]
  rcases quotedValue (equals.dropWhile isSpace) with _ | ⟨value, rest⟩ <;> rfl

theorem passes_openTag : Passes closing openTag := by
  intro cs
  have hd (cs : List Char) : (cs ++ closing).dropWhile isSpace = cs.dropWhile isSpace ++ closing :=
    dropWhile_append_of_head (h.head (p := isSpace) rfl) cs
  have hw (cs : List Char) : tagName (cs ++ closing) = (tagName cs).map (behind closing) :=
    passes_word h rfl cs
  have hr (cs : List Char) : repeated tagAttribute (cs ++ closing) =
      behind closing (repeated tagAttribute cs) :=
    (repeated_eq_iff advances_tagAttribute).mpr ((passes_tagAttribute h).run
      ((repeated_eq_iff advances_tagAttribute).mp rfl))
  have hs (cs : List Char) : (dropStart? ['/'] (cs ++ closing)).getD (cs ++ closing) =
      (dropStart? ['/'] cs).getD cs ++ closing := by
    rw [h.dropStart? (by decide)]
    cases dropStart? ['/'] cs <;> rfl
  cases cs with
  | nil =>
    obtain ⟨tail, rfl⟩ := h.begins
    exact openTag_slash tail
  | cons c start =>
    by_cases hc : c = '<'
    · simp only [openTag, Option.bind_eq_bind, List.cons_append, dropStart?, hc, if_true,
        Option.bind_some, hw]
      rcases tagName start with _ | ⟨name, mid⟩
      · rfl
      simp only [Option.map_some, Option.bind_some, behind, hr, hd, hs,
        h.dropStart? (p := ['>']) (by decide)]
      rcases dropStart? ['>'] ((dropStart? ['/'] ((repeated tagAttribute mid).2.dropWhile
        isSpace)).getD ((repeated tagAttribute mid).2.dropWhile isSpace)) with _ | rest <;> rfl
    · simp [openTag, dropStart?, Ne.symm hc]

theorem passes_placeholder : Passes closing placeholder := by
  intro cs
  cases cs with
  | nil =>
    obtain ⟨tail, rfl⟩ := h.begins
    rfl
  | cons c cs =>
    by_cases hc : c = '$'
    · subst hc
      simp only [placeholder, List.cons_append,
        dropWhile_append_of_head (h.head (p := Char.isDigit) rfl),
        takeWhile_append_of_head (h.head (p := Char.isDigit) rfl)]
      split <;> rfl
    · rw [List.cons_append, placeholder_eq_none_of_head hc, placeholder_eq_none_of_head hc]
      rfl

end

/-- No closing tag begins in the text. -/
def Unclosed (cs : List Char) : Prop := ¬['<', '/'] <:+: cs

theorem Unclosed.of_suffix {cs rest : List Char} (h : Unclosed cs) (hs : rest <:+ cs) :
    Unclosed rest :=
  fun hi => h (hi.trans hs.isInfix)

/-- Nothing can be read of the text without what stands behind it: it is empty, or nothing but a
backslash. -/
def IsSpent (cs : List Char) : Prop := cs <:+ ['\\']

theorem isSpent_iff {cs : List Char} : IsSpent cs ↔ cs = [] ∨ cs = ['\\'] := by
  rw [IsSpent, List.suffix_cons_iff, List.suffix_nil]
  exact Or.comm

section

variable {α β : Type} {closing : List Char}

theorem IsSpent.suffix {cs rest : List Char} (h : IsSpent cs) (hs : rest <:+ cs) : IsSpent rest :=
  hs.trans h

/-- What stands behind a spent text, and the closing tag with it. -/
theorem IsSpent.append {cs : List Char} (h : IsSpent cs) (closing : List Char) :
    cs ++ closing <:+ '\\' :: closing := by
  rcases isSpent_iff.mp h with rfl | rfl
  · exact List.suffix_cons _ _
  · exact List.suffix_refl _

/-- No brace and no bracket stands behind a text that is read to its end. -/
theorem IsClosing.not_mem_of_suffix (h : IsClosing closing) {c : Char} (hc : c = '}' ∨ c = ']')
    {rest : List Char} (hr : rest <:+ '\\' :: closing) : c ∉ rest := by
  intro hm
  rcases List.mem_cons.mp (hr.subset hm) with he | hm
  · rcases hc with rfl | rfl <;> cases he
  · exact h.not_mem c (by rcases hc with rfl | rfl <;> simp) hm

theorem not_mem_of_isSpent {c : Char} (hc : c ≠ '\\') {rest : List Char} (hs : IsSpent rest) :
    c ∉ rest :=
  fun hm => hc (List.mem_singleton.mp (hs.subset hm))

/-- How far a text was read without the closing tag behind it, and with it: to the same place, or
to the end of the text on the one side and somewhere near or in the closing tag on the other. -/
inductive Tracks (closing : List Char) (x y : α × List Char) : Prop
  | on (hs : ¬IsSpent x.2) (h : y = behind closing x)
  | spent (hs : IsSpent x.2) (h : y.2 <:+ '\\' :: closing)

theorem tracks_behind (x : α × List Char) : Tracks closing x (behind closing x) := by
  by_cases hs : IsSpent x.2
  · exact .spent hs (hs.append closing)
  · exact .on hs rfl

theorem Tracks.map {x y : α × List Char} (h : Tracks closing x y) (f : α → β) :
    Tracks closing (f x.1, x.2) (f y.1, y.2) := by
  rcases h with ⟨hs, rfl⟩ | ⟨hs, h⟩
  · exact .on hs rfl
  · exact .spent hs h

/-- Neither result is a success, or both are and come to places that belong together. -/
inductive Alike (closing : List Char) : Option (α × List Char) → Option (α × List Char) → Prop
  | fails : Alike closing none none
  | reads {x y : α × List Char} (h : Tracks closing x y) : Alike closing (some x) (some y)

theorem alike_behind (x : Option (α × List Char)) : Alike closing x (x.map (behind closing)) := by
  cases x with
  | none => exact .fails
  | some x => exact .reads (tracks_behind x)

/-- The second result is the first with the closing tag behind it, if every success is kept and none
is added. -/
theorem eq_map_behind {x y : Option (α × List Char)}
    (hx : ∀ p, x = some p → y = some (behind closing p)) (hy : ∀ q, y = some q → x.isSome = true) :
    y = x.map (behind closing) := by
  cases x with
  | some p => exact hx p rfl
  | none =>
    cases y with
    | none => rfl
    | some q => cases hy q rfl

theorem Alike.or {x x' y y' : Option (α × List Char)} (h : Alike closing x x')
    (h' : Alike closing y y') : Alike closing (x.or y) (x'.or y') := by
  cases h with
  | fails => exact h'
  | reads h => exact .reads h

theorem Alike.eq_none_iff {x y : Option (α × List Char)} (h : Alike closing x y) :
    x = none ↔ y = none := by
  cases h <;> simp

theorem Alike.map {x y : Option (α × List Char)} (h : Alike closing x y) (f : α → β) :
    Alike closing (x.map fun p => (f p.1, p.2)) (y.map fun p => (f p.1, p.2)) := by
  cases h with
  | fails => exact .fails
  | reads h => exact .reads (h.map f)

/-- The second rule reads with the closing tag what the first one reads without it. -/
def Follows (closing : List Char) (rule rule' : Rule α) : Prop :=
  ∀ cs, Unclosed cs → ¬IsSpent cs → Alike closing (rule cs) (rule' (cs ++ closing))

theorem Passes.follows {rule : Rule α} (h : Passes closing rule) : Follows closing rule rule := by
  intro cs _ _
  rw [h]
  exact alike_behind _

variable {rule rule' : Rule α} {cs rest rest' : List Char} {as as' : List α}

/-- Rules that belong together come to places that belong together however often they succeed. -/
theorem Follows.run (h : Follows closing rule rule') (ha : Advances rule) (ha' : Advances rule')
    (hc : Unclosed cs) (hr : Run rule cs as rest) (hr' : Run rule' (cs ++ closing) as' rest') :
    Tracks closing (as, rest) (as', rest') := by
  induction hr generalizing as' with
  | @stop cs hn =>
    by_cases hs : IsSpent cs
    · exact .spent hs ((hr'.suffix ha').trans (hs.append closing))
    · have hl := h cs hc hs
      rw [hn] at hl
      cases hr' with
      | stop _ => exact .on hs rfl
      | step hs' _ =>
        rw [hs'] at hl
        cases hl
  | @step cs mid rest a as hstep tail ih =>
    by_cases hs : IsSpent cs
    · exact .spent (hs.suffix ((Run.step hstep tail).suffix ha))
        ((hr'.suffix ha').trans (hs.append closing))
    · have hl := h cs hc hs
      rw [hstep] at hl
      cases hr' with
      | stop hn =>
        rw [hn] at hl
        cases hl
      | @step _ mid' _ a' as' hs' tail' =>
        rw [hs'] at hl
        cases hl with
        | reads hl =>
          rcases hl with ⟨hm, he⟩ | ⟨hm, he⟩
          · obtain ⟨rfl, rfl⟩ := Prod.mk.inj he
            exact (ih (hc.of_suffix (ha hstep).1) tail').map (a' :: ·)
          · exact .spent (hm.suffix (tail.suffix ha)) ((tail'.suffix ha').trans he)

/-- A run that leaves something to read goes the same way with the closing tag. -/
theorem Follows.run_on (h : Follows closing rule rule') (ha : Advances rule) (ha' : Advances rule')
    (hc : Unclosed cs) (hr : Run rule cs as rest) (hs : ¬IsSpent rest) :
    Run rule' (cs ++ closing) as (rest ++ closing) := by
  have hr' : Run rule' (cs ++ closing) _ _ := (repeated_eq_iff ha').mp rfl
  rcases h.run ha ha' hc hr hr' with ⟨-, he⟩ | ⟨hn, -⟩
  · obtain ⟨h₁, h₂⟩ := Prod.mk.inj he
    rwa [h₁, h₂] at hr'
  · exact absurd hn hs

/-- A run up to a brace or a bracket goes the same way without the closing tag. -/
theorem Follows.run_back (h : Follows closing rule rule') (hcl : IsClosing closing)
    (ha : Advances rule) (ha' : Advances rule') (hc : Unclosed cs)
    (hr' : Run rule' (cs ++ closing) as' rest') {c : Char} (hb : c = '}' ∨ c = ']')
    (hm : c ∈ rest') : ∃ rest, rest' = rest ++ closing ∧ ¬IsSpent rest ∧ Run rule cs as' rest := by
  have hr : Run rule cs _ _ := (repeated_eq_iff ha).mp rfl
  rcases h.run ha ha' hc hr hr' with ⟨hs, he⟩ | ⟨-, he⟩
  · obtain ⟨rfl, rfl⟩ := Prod.mk.inj he
    exact ⟨_, rfl, hs, hr⟩
  · exact absurd hm (hcl.not_mem_of_suffix hb he)

theorem Follows.repeated (h : Follows closing rule rule') (ha : Advances rule)
    (ha' : Advances rule') (hc : Unclosed cs) :
    Tracks closing (Rule.repeated rule cs) (Rule.repeated rule' (cs ++ closing)) :=
  h.run ha ha' hc ((repeated_eq_iff ha).mp rfl) ((repeated_eq_iff ha').mp rfl)

theorem Follows.repeated1 (h : Follows closing rule rule') (ha : Advances rule)
    (ha' : Advances rule') : Follows closing (Rule.repeated1 rule) (Rule.repeated1 rule') := by
  intro cs hc hs
  have hl := (h cs hc hs).eq_none_iff
  rw [← repeated1_eq_none_iff ha, ← repeated1_eq_none_iff ha'] at hl
  cases hn : Rule.repeated1 rule cs with
  | none =>
    rw [hl.mp hn]
    exact .fails
  | some x =>
    cases hn' : Rule.repeated1 rule' (cs ++ closing) with
    | none =>
      rw [hl.mpr hn'] at hn
      cases hn
    | some y =>
      exact .reads (h.run ha ha' hc ((repeated1_eq_some_iff ha).mp hn).2
        ((repeated1_eq_some_iff ha').mp hn').2)

end

/-- Scopes that differ at most in being among the children of an element. -/
def Scope.Like (s s' : Scope) : Prop := s.element = s'.element

namespace Scope

theorem like_element (s : Scope) : s.Like s.element := rfl

variable {s s' : Scope}

/-- What does not depend on being among the children of an element is the same in both. -/
theorem Like.congr {α : Type} {f : Scope → α} (hf : ∀ s, f s.element = f s) (h : s.Like s') :
    f s = f s' := by
  rw [← hf s, ← hf s', h]

theorem Like.links (h : s.Like s') : s.links = s'.links := h.congr fun _ => rfl

theorem Like.inLink (h : s.Like s') : s.inLink = s'.inLink := h.congr fun _ => rfl

theorem Like.inLabel (h : s.Like s') : s.inLabel = s'.inLabel := h.congr fun _ => rfl

theorem Like.inArgument (h : s.Like s') : s.inArgument = s'.inArgument := h.congr fun _ => rfl

theorem Like.isPlain (h : s.Like s') : s.isPlain = s'.isPlain := h.congr fun _ => rfl

theorem Like.argument (h : s.Like s') : s.argument = s'.argument := h.congr fun _ => rfl

theorem Like.label (h : s.Like s') : s.label.Like s'.label :=
  h.congr (f := fun s => s.label.element) fun _ => rfl

theorem Like.target (h : s.Like s') : s.target.Like s'.target :=
  h.congr (f := fun s => s.target.element) fun _ => rfl

end Scope

section

variable {closing : List Char}

theorem plainChar_append (plain : Char → Bool) {cs : List Char} (hs : ¬IsSpent cs) :
    plainChar plain (cs ++ closing) = (plainChar plain cs).map (behind closing) := by
  cases cs with
  | nil => exact absurd (isSpent_iff.mpr (.inl rfl)) hs
  | cons c cs =>
    simp only [List.cons_append, plainChar]
    split
    · rename_i hc
      cases cs with
      | nil => exact absurd (isSpent_iff.mpr (.inr (by rw [hc]))) hs
      | cons d cs => rfl
    · split <;> rfl

theorem follows_plainChar (plain : Char → Bool) :
    Follows closing (plainChar plain) (plainChar plain) := by
  intro cs _ hs
  rw [plainChar_append plain hs]
  exact alike_behind _

theorem follows_textRun (plain : Char → Bool) :
    Follows closing (textRun plain) (textRun plain) := by
  intro cs hc hs
  have ha := advances_plainChar plain
  exact ((follows_plainChar plain).repeated1 ha ha cs hc hs).map
    fun pieces => Node.text (String.ofList pieces.flatten)

variable {s s' : Scope}

theorem isStray_append (h : IsClosing closing) (hs : s.Like s') {c : Char}
    {cs : List Char} (hc : Unclosed (c :: cs)) :
    isStray s' (c :: (cs ++ closing)) = isStray s (c :: cs) := by
  obtain ⟨tail, rfl⟩ := h.begins
  by_cases ha : c = '<'
  · subst ha
    cases cs with
    | nil => simp [isStray]
    | cons d cs =>
      have hd : d ≠ '/' := by
        rintro rfl
        exact hc ⟨[], cs, rfl⟩
      simp [isStray, hd]
  by_cases hb : c = '{'
  · subst hb
    cases cs <;> simp [isStray]
  -- Nothing but the first character counts.
  have hfirst (s : Scope) (cs : List Char) : isStray s (c :: cs) = isStray s [c] := by
    unfold isStray
    split <;> simp_all
  rw [hfirst s', hfirst s]
  simp only [isStray, hs.inLabel, hs.inArgument]
  split <;> simp_all

theorem stray_append (h : IsClosing closing) (hs : s.Like s') {cs : List Char}
    (hc : Unclosed cs) (hn : ¬IsSpent cs) :
    stray s' (cs ++ closing) = (stray s cs).map (behind closing) := by
  cases cs with
  | nil => exact absurd (isSpent_iff.mpr (.inl rfl)) hn
  | cons c cs =>
    simp only [stray, List.cons_append, isStray_append h hs hc]
    split <;> rfl

theorem follows_stray (h : IsClosing closing) (hs : s.Like s') :
    Follows closing (stray s) (stray s') := by
  intro cs hc hn
  rw [stray_append h hs hc hn]
  exact alike_behind _

end

end WikiMessage.Markup
