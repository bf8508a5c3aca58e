import WikiMessage.Proofs.Markup.Boundary

/-!
# Canonical sources are read back

Reading the canonical source of a sequence gives the nodes it stands for. Each rule with nesting
reads its construct back if the rule for inner expressions reads back the sequences in it, and the
induction over canonical constructs then holds in every scope and at every depth that is enough.
-/

namespace WikiMessage.Markup

open WikiMessage.Text Rule
open Source (print printAll printBars node nodes Separated IsCallName IsTag Canonical)

section

variable {inner : Scope → Rule Node} {s : Scope}

theorem trimChars_of_isCallName {name : String} (h : IsCallName name) :
    trimChars name.toList = name.toList :=
  trimChars_eq_self h.first h.last

/-- The rule for inner expressions reads back the sequence up to any end of the scope. -/
def ReadsBack (inner : Scope → Rule Node) (s : Scope) (es : List Source) : Prop :=
  ∀ rest, Closes s rest → Run (inner s) (printAll es ++ rest) (nodes es) rest

theorem closes_printBars (args : List (List Source)) (rest : List Char) :
    Closes s.argument (printBars args ++ '}' :: '}' :: rest) := by
  cases args with
  | nil => exact .brace rfl
  | cons a args => exact .bar rfl

theorem run_printBars (hi : InnerAdvances inner) {args : List (List Source)}
    (hs : ∀ a ∈ args, Separated a) (ha : ∀ a ∈ args, ReadsBack inner s.argument a)
    (rest : List Char) :
    Run (argumentAfter '|' (inner s.argument)) (printBars args ++ '}' :: '}' :: rest)
      (Source.groups args) ('}' :: '}' :: rest) := by
  induction args with
  | nil => exact .stop rfl
  | cons a args ih =>
    obtain ⟨hs, hs'⟩ := List.forall_mem_cons.mp hs
    obtain ⟨ha, ha'⟩ := List.forall_mem_cons.mp ha
    refine .step ?_ (ih hs' ha')
    refine (argumentAfter_eq_some_iff (hi s.argument)).mpr
      ⟨nodes a, printAll a ++ (printBars args ++ '}' :: '}' :: rest), ?_, ?_,
        ha _ (closes_printBars args rest)⟩
    · exact (Source.collapse_nodes hs).symm
    · simp [printBars]

theorem call_print (hi : InnerAdvances inner) {name : String} {args : List (List Source)}
    (hn : IsCallName name) (hs : ∀ a ∈ args, Separated a)
    (ha : ∀ a ∈ args, ReadsBack inner s.argument a) (rest : List Char) :
    call inner s (print (.call name args) ++ rest) = some (node (.call name args), rest) := by
  have hb := run_printBars hi hs ha rest
  cases args with
  | nil =>
    refine call_eq_some_iff.mpr
      ⟨name.toList, '}' :: '}' :: rest, [], ?_, hn.nonempty, hn.chars, by rintro c ⟨⟩; rfl, ?_, ?_⟩
    · rw [trimChars_of_isCallName hn, String.ofList_toList]
      rfl
    · simp [print]
    · exact (arguments_eq_iff (hi s.argument)).mpr (.inr ⟨by simp, hb⟩)
  | cons a args =>
    refine call_eq_some_iff.mpr
      ⟨name.toList, ':' :: (printAll a ++ (printBars args ++ '}' :: '}' :: rest)),
        Source.groups (a :: args), ?_, hn.nonempty, hn.chars, by rintro c ⟨⟩; rfl, ?_, ?_⟩
    · rw [trimChars_of_isCallName hn, String.ofList_toList]
      rfl
    · simp [print]
    · obtain ⟨hs, hs'⟩ := List.forall_mem_cons.mp hs
      obtain ⟨ha, ha'⟩ := List.forall_mem_cons.mp ha
      refine (arguments_eq_iff (hi s.argument)).mpr
        (.inl ⟨_, _, _, rfl, ?_, run_printBars hi hs' ha' rest⟩)
      exact (argumentAfter_eq_some_iff (hi s.argument)).mpr
        ⟨nodes a, _, (Source.collapse_nodes hs).symm, rfl, ha _ (closes_printBars args rest)⟩

theorem element_print (hi : InnerAdvances inner) {tag : String} {attributes : List Attribute}
    {children : List Source} (ht : IsTag tag attributes) (hc : ReadsBack inner s.element children)
    (rest : List Char) :
    element inner s (print (.element tag attributes children) ++ rest) =
      some (node (.element tag attributes children), rest) := by
  have hp : print (.element tag attributes children) ++ rest =
      '<' :: (tag.toList ++ (attributes.flatMap Attribute.print ++ '>' ::
        (printAll children ++ '<' :: '/' :: (tag.toList ++ '>' :: rest)))) := by
    simp [print]
  refine (element_eq_some_iff hi).mpr ⟨⟨tag, attributes⟩, _, nodes children, _, ?_,
    hc _ (.closingTag rfl), .inr ⟨tag, closeTag_print ht rest, .inl ⟨rfl, ht.allowed, rfl⟩⟩⟩
  rw [hp]
  exact openTag_print ht _

/-- Reading a part of a target, where a text of it has the characters of class `plain`. -/
def targetPart (inner : Scope → Rule Node) (s : Scope) (plain : Char → Bool) : Rule Node :=
  fun cs => (call inner s cs).or ((placeholder cs).or (textRun plain cs))

theorem pageTarget_eq : pageTarget inner s = targetPart inner s s.argument.isPlain := by
  funext cs
  simp only [pageTarget, targetPart, Option.orElse_eq_orElse, Option.orElse_eq_or]

theorem webTarget_eq :
    webTarget inner s = targetPart inner s fun c => s.isPlain c && !isBlank c := by
  funext cs
  simp only [webTarget, targetPart, Option.orElse_eq_orElse, Option.orElse_eq_or]

theorem targetPart_eq_none {plain : Char → Bool} {c : Char} {cs : List Char}
    (hs : isSigil c = false) (hb : c ≠ '\\') (hp : plain c = false) :
    targetPart inner s plain (c :: cs) = none := by
  simp only [isSigil, Bool.or_eq_false_iff, decide_eq_false_iff_not] at hs
  rw [targetPart, call_eq_none_of_head hs.1.1.1, placeholder_eq_none_of_head hs.1.1.2,
    textRun_eq_none_of_head hb hp]
  rfl

theorem targetPart_print {plain : Char → Bool} {e : Source} (h : Canonical false e)
    (hp : e.isTargetPart = true) (hc : ∀ name args, e = .call name args →
      ∀ rest, call inner s (e.print ++ rest) = some (e.node, rest))
    {rest : List Char} (he : EndsBefore plain e rest) :
    targetPart inner s plain (e.print ++ rest) = some (e.node, rest) := by
  cases h with
  | @text _ content hn =>
    have ht := textRun_print he hn
    obtain ⟨c, cs, hcs⟩ := List.exists_cons_of_ne_nil (mt String.toList_eq_nil_iff.mp hn)
    have hh : print (.text content) ++ rest =
        '\\' :: c :: (cs.flatMap (fun c => ['\\', c]) ++ rest) := by simp [print, hcs]
    rw [hh] at ht ⊢
    rw [targetPart, call_eq_none_of_head (by decide), placeholder_eq_none_of_head (by decide), ht]
    rfl
  | placeholder hb =>
    have ht := placeholder_print hb he
    rw [targetPart, ht, show print _ ++ rest = '$' :: _ from rfl, call_eq_none_of_head (by decide)]
    rfl
  | call _ _ _ => rw [targetPart, hc _ _ rfl]; rfl
  | element _ _ _ => cases hp

/-- The constructs of a target are read back up to a character that ends the target. -/
theorem run_target {plain : Char → Bool} {target : List Source} {c : Char} {rest : List Char}
    (hb : plain '{' = false) (hd : plain '$' = false) (ha : plain '<' = false)
    (hs : isSigil c = false) (hc : c ≠ '\\') (hg : c.isDigit = false) (hp : plain c = false)
    (ht : ∀ e ∈ target, Canonical false e) (hpart : ∀ e ∈ target, e.isTargetPart = true)
    (hsep : Separated target)
    (hcall : ∀ name args, .call name args ∈ target → ∀ rest,
      call inner s (print (.call name args) ++ rest) = some (node (.call name args), rest)) :
    Run (targetPart inner s plain) (printAll target ++ c :: rest) (nodes target) (c :: rest) := by
  refine run_printAll (targetPart_eq_none hs hc hp)
    (plainChar_eq_none_iff.mpr (.inr (.inr ⟨c, rest, rfl, hc, hp⟩))) (by simpa using hg) hsep ?_ ?_
  · exact fun e he => startsWith_of_canonical_false hb hd ha (ht e he)
  · intro e he rest hend
    refine targetPart_print (ht e he) (hpart e he) ?_ hend
    rintro name args rfl
    exact hcall name args he

theorem nodes_ne_nil {es : List Source} (h : es ≠ []) : nodes es ≠ [] := by
  rw [Source.nodes_eq_map]
  simpa using h

/-- A target that has a canonical source, and the rule for the calls in it reads them back. -/
structure ReadsTarget (inner : Scope → Rule Node) (s : Scope) (target : List Source) : Prop where
  nonempty : target ≠ []
  parts : ∀ e ∈ target, e.isTargetPart = true
  separated : Separated target
  canonical : ∀ e ∈ target, Canonical false e
  calls : ∀ name args, .call name args ∈ target → ∀ rest,
    call inner s.target (print (.call name args) ++ rest) = some (node (.call name args), rest)

theorem pageLink_print (hi : InnerAdvances inner) (hl : s.links = true) (hk : s.inLink = false)
    {target : List Source} (ht : ReadsTarget inner s target) (rest : List Char) :
    pageLink inner s (print (.pageLink target none) ++ rest) =
      some (node (.pageLink target none), rest) := by
  refine (pageLink_eq_some_iff hi).mpr ⟨printAll target ++ ']' :: ']' :: rest, nodes target,
    ']' :: ']' :: rest, none, ?_, hl, hk, by simp [print], nodes_ne_nil ht.nonempty, ?_, ?_⟩
  · rw [Source.collapse_nodes ht.separated]
    rfl
  · rw [pageTarget_eq]
    refine run_target rfl rfl rfl rfl (by decide) rfl ?_ ht.canonical ht.parts ht.separated ht.calls
    simp [Scope.isPlain, Scope.target, Scope.argument, hl]
  · exact (pageLabel_eq_some_iff (hi s.label)).mpr (.inr ⟨rfl, rfl, by simp⟩)

theorem labelledLink_print (hi : InnerAdvances inner) (hl : s.links = true) (hk : s.inLink = false)
    {target label : List Source} (ht : ReadsTarget inner s target) (hn : label ≠ [])
    (hs : Separated label) (hb : ReadsBack inner s.label label) (rest : List Char) :
    pageLink inner s (print (.pageLink target (some label)) ++ rest) =
      some (node (.pageLink target (some label)), rest) := by
  refine (pageLink_eq_some_iff hi).mpr ⟨printAll target ++ '|' :: (printAll label ++ ']' :: ']' ::
    rest), nodes target, '|' :: (printAll label ++ ']' :: ']' :: rest), some (.group (nodes label)),
    ?_, hl, hk, by simp [print], nodes_ne_nil ht.nonempty, ?_, ?_⟩
  · rw [Source.collapse_nodes ht.separated]
    rfl
  · rw [pageTarget_eq]
    exact run_target rfl rfl rfl rfl (by decide) rfl rfl ht.canonical ht.parts ht.separated ht.calls
  · refine (pageLabel_eq_some_iff (hi s.label)).mpr (.inl ⟨nodes label, _, ?_, rfl,
      nodes_ne_nil hn, hb _ (.bracket hl rfl)⟩)
    rw [Source.collapse_nodes hs]

theorem webLink_print (hi : InnerAdvances inner) (hl : s.links = true) (hk : s.inLink = false)
    {target label : List Source} (ht : ReadsTarget inner s target) (hn : label ≠ [])
    (hs : Separated label) (ha : ∀ e ∈ label, Canonical false e)
    (hb : ReadsBack inner s.label label) (rest : List Char) :
    webLink inner s (print (.webLink target label) ++ rest) =
      some (node (.webLink target label), rest) := by
  have hspace : spaces (' ' :: (printAll label ++ ']' :: rest)) =
      some ((), printAll label ++ ']' :: rest) := by
    refine spaces_eq_some_iff.mpr ⟨[' '], by simp, rfl, by simp [isSpace], ?_⟩
    obtain ⟨e, es, rfl⟩ := List.exists_cons_of_ne_nil hn
    obtain ⟨c, ⟨tail, hc⟩, -, hb, -, -⟩ := @startsWith_of_canonical_false s.isPlain _ rfl rfl
      rfl (ha e List.mem_cons_self)
    simpa [printAll, hc] using hb
  refine (webLink_eq_some_iff hi).mpr ⟨printAll target ++ ' ' :: (printAll label ++ ']' :: rest),
    nodes target, ' ' :: (printAll label ++ ']' :: rest), printAll label ++ ']' :: rest,
    nodes label, ?_, hl, hk, by simp [print], nodes_ne_nil ht.nonempty, ?_, hspace, nodes_ne_nil hn,
    hb _ (.bracket hl rfl)⟩
  · rw [Source.collapse_nodes ht.separated, Source.collapse_nodes hs]
    rfl
  · rw [webTarget_eq]
    refine run_target rfl rfl rfl rfl (by decide) rfl ?_ ht.canonical ht.parts ht.separated ht.calls
    rw [show isBlank ' ' = true from by decide, Bool.not_true, Bool.and_false]

end

theorem length_args_lt {name : String} {args : List (List Source)} {a : List Source}
    (h : a ∈ args) : (printAll a).length < (print (.call name args)).length := by
  cases args with
  | nil => cases h
  | cons first more =>
    have hl : (print (.call name (first :: more))).length =
        name.toList.length + (printBars (first :: more)).length + 4 := by
      simp [print, printBars]
      omega
    have := Source.length_printAll_lt h
    omega

theorem call_of_construct {inner : Scope → Rule Node} {s : Scope} {name : String}
    {args : List (List Source)} {rest : List Char}
    (h : construct inner s (print (.call name args) ++ rest) =
      some (node (.call name args), rest)) :
    call inner s (print (.call name args) ++ rest) = some (node (.call name args), rest) := by
  obtain ⟨cs, hc⟩ : ∃ cs, print (.call name args) ++ rest = '{' :: cs := by
    cases args <;> exact ⟨_, rfl⟩
  rw [hc, construct_brace, Option.or_eq_some_iff] at h
  rw [hc]
  rcases h with h | ⟨-, h⟩
  · exact h
  · obtain ⟨c, -, -, hn⟩ := stray_eq_some_iff.mp h
    cases hn

/-- Links are made in the scope if a construct may need it. -/
def Scope.Allows (s : Scope) (links : Bool) : Prop :=
  links = true → s.links = true ∧ s.inLink = false

theorem Scope.allows_false (s : Scope) : s.Allows false :=
  fun h => absurd h Bool.false_ne_true

/-- The construct is read back at a depth that its length bounds, in a scope that allows it. -/
def IsReadBack (links : Bool) (e : Source) : Prop :=
  ∀ {depth s rest}, s.Allows links → e.print.length ≤ depth → EndsBefore s.isPlain e rest →
    expression depth s (e.print ++ rest) = some (e.node, rest)

theorem readsBack_of_isReadBack {links : Bool} {depth : Nat} {s : Scope} {es : List Source}
    (hs : s.Allows links) (hsep : Separated es) (hc : ∀ e ∈ es, Canonical links e)
    (he : ∀ e ∈ es, IsReadBack links e) (hl : (printAll es).length ≤ depth) :
    ReadsBack (expression depth) s es := by
  intro rest hend
  refine run_printAll (hend.expression_eq_none depth) hend.plainChar_eq_none hend.isDigit_head hsep
    ?_ ?_
  · intro e he
    refine startsWith_of_canonical rfl rfl rfl (fun h => ?_) (hc e he)
    simp [Scope.isPlain, (hs h).1]
  · exact fun e h rest => he e h hs ((Source.length_print_le h).trans hl)

theorem readsTarget_of_isReadBack {depth : Nat} {s : Scope} {target : List Source}
    (hn : target ≠ []) (hp : ∀ e ∈ target, e.isTargetPart = true) (hsep : Separated target)
    (hc : ∀ e ∈ target, Canonical false e) (he : ∀ e ∈ target, IsReadBack false e)
    (hl : (printAll target).length ≤ depth + 1) : ReadsTarget (expression depth) s target where
  nonempty := hn
  parts := hp
  separated := hsep
  canonical := hc
  calls name args h _ := call_of_construct (he (.call name args) h
    s.target.allows_false ((Source.length_print_le h).trans hl) trivial)

/-- It is enough to read the construct where there is room for one more around each of its parts. -/
theorem isReadBack_of_construct {links : Bool} {e : Source} (hc : Canonical links e)
    (h : ∀ {depth s rest}, s.Allows links → e.print.length ≤ depth + 1 →
      EndsBefore s.isPlain e rest →
      construct (expression depth) s (e.print ++ rest) = some (e.node, rest)) :
    IsReadBack links e := by
  intro depth s rest hs hl hend
  cases depth with
  | zero =>
    obtain ⟨c, ⟨tail, hp⟩, -⟩ := @startsWith_of_canonical (fun _ => false) _ _ rfl rfl rfl
      (fun _ => rfl) hc
    rw [hp] at hl
    cases hl
  | succ depth => exact h hs hl hend

theorem isReadBack_text {links : Bool} {content : String} (hn : content ≠ "") :
    IsReadBack links (.text content) := by
  refine isReadBack_of_construct (.text hn) fun {depth s rest} _ _ hend => ?_
  have ht := textRun_print hend hn
  obtain ⟨c, cs, hc⟩ := List.exists_cons_of_ne_nil (mt String.toList_eq_nil_iff.mp hn)
  have hp : print (.text content) = '\\' :: c :: cs.flatMap fun c => ['\\', c] := by
    simp [print, hc]
  rw [hp, List.cons_append] at ht ⊢
  rw [construct_of_not_sigil rfl, ht, Option.some_or]

theorem isReadBack_placeholder {links : Bool} {index : Nat}
    (hb : index + 1 < Numeral.unsignedBound) : IsReadBack links (.placeholder index) := by
  refine isReadBack_of_construct (.placeholder hb) fun {depth s rest} _ _ hend => ?_
  have hp := placeholder_print hb hend
  rw [show print (.placeholder index) ++ rest = '$' :: _ from rfl] at hp ⊢
  rw [construct_dollar, hp, Option.some_or]

theorem isReadBack_call {links : Bool} {name : String} {args : List (List Source)}
    (hn : IsCallName name) (hs : ∀ a ∈ args, Separated a)
    (ha : ∀ a ∈ args, ∀ e ∈ a, Canonical links e) (ih : ∀ a ∈ args, ∀ e ∈ a, IsReadBack links e) :
    IsReadBack links (.call name args) := by
  refine isReadBack_of_construct (.call hn hs ha) fun {depth s rest} hk hl _ => ?_
  have hb : ∀ a ∈ args, ReadsBack (expression depth) s.argument a := by
    intro a h
    have hlen := @length_args_lt name args a h
    exact readsBack_of_isReadBack hk (hs a h) (ha a h) (ih a h) (by omega)
  have hc := call_print (advances_expression depth) hn hs hb rest
  simp only [construct, hc, Option.orElse_eq_orElse, Option.orElse_eq_or, Option.some_or]

theorem isReadBack_element {links : Bool} {tag : String} {attributes : List Attribute}
    {children : List Source} (ht : IsTag tag attributes) (hs : Separated children)
    (hc : ∀ e ∈ children, Canonical links e) (ih : ∀ e ∈ children, IsReadBack links e) :
    IsReadBack links (.element tag attributes children) := by
  refine isReadBack_of_construct (.element ht hs hc) fun {depth s rest} hk hl _ => ?_
  have hb : ReadsBack (expression depth) s.element children := by
    refine readsBack_of_isReadBack hk hs hc ih ?_
    simp only [print, List.length_append, List.length_cons] at hl
    omega
  have he := element_print (advances_expression depth) ht hb rest
  rw [show print (.element tag attributes children) ++ rest = '<' :: _ from rfl] at he ⊢
  rw [construct_angle, he, Option.some_or]

section

variable {target label : List Source} (hn : target ≠ [])
  (hp : ∀ e ∈ target, e.isTargetPart = true) (hs : Separated target)
  (ht : ∀ e ∈ target, Canonical false e) (iht : ∀ e ∈ target, IsReadBack false e)

include hn hp hs ht iht

theorem isReadBack_pageLink : IsReadBack true (.pageLink target none) := by
  refine isReadBack_of_construct (.pageLink hn hp hs ht) fun {depth s rest} hk hl _ => ?_
  obtain ⟨hl', hi⟩ := hk rfl
  have hr : ReadsTarget (expression depth) s target := by
    refine readsTarget_of_isReadBack hn hp hs ht iht ?_
    simp only [print, List.length_append] at hl
    omega
  have h := pageLink_print (advances_expression depth) hl' hi hr rest
  rw [show print (.pageLink target none) ++ rest = '[' :: _ from rfl] at h ⊢
  rw [construct_bracket, h, Option.some_or]

variable (hn' : label ≠ []) (hs' : Separated label) (hl : ∀ e ∈ label, Canonical false e)
  (ihl : ∀ e ∈ label, IsReadBack false e)

include hn' hs' hl ihl

theorem isReadBack_labelledLink : IsReadBack true (.pageLink target (some label)) := by
  refine isReadBack_of_construct (.labelledLink hn hp hs ht hn' hs' hl)
    fun {depth s rest} hk hlen _ => ?_
  obtain ⟨hl', hi⟩ := hk rfl
  simp only [print, List.length_append, List.length_cons] at hlen
  have hr : ReadsTarget (expression depth) s target :=
    readsTarget_of_isReadBack hn hp hs ht iht (by omega)
  have hb : ReadsBack (expression depth) s.label label :=
    readsBack_of_isReadBack s.label.allows_false hs' hl ihl (by omega)
  have h := labelledLink_print (advances_expression depth) hl' hi hr hn' hs' hb rest
  rw [show print (.pageLink target (some label)) ++ rest = '[' :: _ from rfl] at h ⊢
  rw [construct_bracket, h, Option.some_or]

/-- A target does not begin with a bracket, so a web link is not read as a page link. -/
theorem isReadBack_webLink : IsReadBack true (.webLink target label) := by
  refine isReadBack_of_construct (.webLink hn hp hs ht hn' hs' hl)
    fun {depth s rest} hk hlen _ => ?_
  obtain ⟨hl', hi⟩ := hk rfl
  simp only [print, List.length_append, List.length_cons] at hlen
  have hr : ReadsTarget (expression depth) s target :=
    readsTarget_of_isReadBack hn hp hs ht iht (by omega)
  have hb : ReadsBack (expression depth) s.label label :=
    readsBack_of_isReadBack s.label.allows_false hs' hl ihl (by omega)
  have h := webLink_print (advances_expression depth) hl' hi hr hn' hs' hl hb rest
  have hp' : pageLink (expression depth) s (print (.webLink target label) ++ rest) = none := by
    obtain ⟨e, es, rfl⟩ := List.exists_cons_of_ne_nil hn
    obtain ⟨c, ⟨tail, hc⟩, -, -, hx, ha⟩ := @startsWith_of_canonical_false (fun c => c = '[') _
      rfl rfl rfl (ht e List.mem_cons_self)
    refine Option.eq_none_iff_forall_ne_some.mpr fun p h => ?_
    obtain ⟨start, _, _, _, -, -, -, he, -⟩ :=
      (pageLink_eq_some_iff (advances_expression depth)).mp h
    simp only [print, printAll, hc, List.cons_append, List.cons.injEq] at he
    obtain ⟨-, rfl, -⟩ := he
    cases hk : e.isText with
    | false => exact absurd (ha hk).2 (by decide)
    | true => exact absurd (hx hk) (by decide)
  rw [show print (.webLink target label) ++ rest = '[' :: _ from rfl] at h hp' ⊢
  rw [construct_bracket, hp', h, Option.none_or, Option.some_or]

end

theorem isReadBack_of_canonical {links : Bool} {e : Source} (h : Canonical links e) :
    IsReadBack links e := by
  induction h with
  | text hn => exact isReadBack_text hn
  | placeholder hb => exact isReadBack_placeholder hb
  | call hn hs ha ih => exact isReadBack_call hn hs ha ih
  | element ht hs hc ih => exact isReadBack_element ht hs hc ih
  | pageLink hn hp hs ht ih => exact isReadBack_pageLink hn hp hs ht ih
  | labelledLink hn hp hs ht hn' hs' hl iht ihl =>
    exact isReadBack_labelledLink hn hp hs ht iht hn' hs' hl ihl
  | webLink hn hp hs ht hn' hs' hl iht ihl =>
    exact isReadBack_webLink hn hp hs ht iht hn' hs' hl ihl

/-- Reading the canonical source of a sequence gives exactly the nodes it stands for. -/
theorem parse_print {links : Bool} {es : List Source} (hc : ∀ e ∈ es, Canonical links e)
    (hs : Separated es) : parse links (String.ofList (printAll es)) = .ok (.seq (nodes es)) := by
  refine parse_eq_ok_iff.mpr ⟨nodes es, ?_, ?_⟩
  · rw [Node.concat, Source.mergeTexts_nodes hs]
  · rw [String.toList_ofList]
    have hk : (Scope.top links).Allows links := fun h => ⟨h, rfl⟩
    have hr := readsBack_of_isReadBack hk hs hc (fun e he => isReadBack_of_canonical (hc e he))
      (Nat.le_refl _) [] .done
    rwa [List.append_nil] at hr

theorem parse_print_nested :
    parse true "\\<\x7b\x7bn:$1|<b class=\x22c\x22>\\|</b>\x7d\x7d[[\\P|\\]]]" =
      .ok (.seq [.text "&lt;",
        .call "n" [.placeholder 0, .element "b" [⟨"class", "c"⟩] [.text "|"]],
        .pageLink (.text "P") (some (.text "]"))]) := by
  have hb : Canonical true (.element "b" [⟨"class", "c"⟩] [.text "|"]) := by
    refine .element ⟨by decide +kernel, by decide, by decide, by decide⟩ (.singleton _) ?_
    simpa using .text (by decide)
  have hn : IsCallName "n" := by
    have hb : isBlank 'n' = false := rfl
    exact ⟨by simp, by simp [isNameChar], by simpa using hb, by simpa using hb⟩
  have hc : Canonical true (.call "n" [[.placeholder 0],
      [.element "b" [⟨"class", "c"⟩] [.text "|"]]]) := by
    refine .call hn ?_ ?_
    · simp [Separated]
    · simpa using ⟨.placeholder (by decide), hb⟩
  have hp : Canonical true (.pageLink [.text "P"] (some [.text "]"])) := by
    refine .labelledLink (by simp) (by simp [Source.isTargetPart]) (.singleton _) ?_ (by simp)
      (.singleton _) ?_
    · simpa using .text (by decide)
    · simpa using .text (by decide)
  have h := @parse_print true [.text "<", .call "n" [[.placeholder 0],
    [.element "b" [⟨"class", "c"⟩] [.text "|"]]], .pageLink [.text "P"] (some [.text "]"])]
    (by simpa using ⟨.text (by decide), hc, hp⟩) (by simp [Separated, Source.isText])
  exact h

end WikiMessage.Markup
