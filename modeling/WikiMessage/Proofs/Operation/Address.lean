import WikiMessage.Proofs.Evaluation.Outcome
import WikiMessage.Proofs.Evaluation.Safe
import WikiMessage.Proofs.Text.Ascii
import WikiMessage.Proofs.Text.Reference

/-!
# Addresses of web links

A browser does not read an address as it is written: it passes over blanks and controls in front and
over tabs and ends of lines anywhere, and only then looks for a scheme. The check of a target passes
over more characters, so it finds every scheme that a browser finds.
-/

namespace WikiMessage

open WikiMessage.Text Markup

namespace Operation

/-- A character that may stand in a scheme after its first letter. -/
def isSchemeChar (c : Char) : Bool := c.isAlphanum || c = '+' || c = '-' || c = '.'

/-- The address begins with the scheme and a colon. No colon stands in a scheme, so it is the first
one. -/
structure HasScheme (address scheme : List Char) : Prop where
  begins : ∃ c ∈ scheme.head?, c.isAlpha = true
  chars : ∀ c ∈ scheme, isSchemeChar c = true
  colon : ∃ rest, address = scheme ++ ':' :: rest

/-- The scheme is on the list, in whatever letters of ASCII it is written. -/
def IsAllowedScheme (scheme : List Char) : Prop :=
  String.ofList (scheme.map Char.toLower) ∈ allowedSchemes

/-- What a browser passes over in front of an address: blanks and the controls of ASCII. -/
def isLeading (c : Char) : Bool := c.toNat ≤ 0x20

/-- What a browser passes over anywhere in an address. -/
def isLayout (c : Char) : Bool := c = '\t' || c = '\n' || c = '\r'

/-- An address as a browser understands it. -/
def browserAddress (address : List Char) : List Char :=
  (address.dropWhile isLeading).filter fun c => !isLayout c

/-- An address as it is checked. -/
def checkedAddress (address : List Char) : List Char :=
  address.filter fun c => !isBlank c && !isControl c

/-- What may come of a link: an anchor whose address a browser takes to be the target, under an
allowed scheme or none, or the bare label of a target that has some other scheme. -/
inductive IsLink (target label : String) : String → Prop
  | anchor (value : List Char) (hq : '\x22' ∉ value)
      (hd : ∀ d : Decoder, d.decode value = trimChars target.toList)
      (hs : ∀ (d : Decoder) (scheme : List Char),
        HasScheme (browserAddress (d.decode value)) scheme → IsAllowedScheme scheme) :
      IsLink target label ("<a href=\"" ++ String.ofList value ++ "\">" ++ label ++ "</a>")
  | label (scheme : List Char) (hs : HasScheme (checkedAddress (trimChars target.toList)) scheme)
      (hn : ¬IsAllowedScheme scheme) : IsLink target label label

theorem isScheme_iff {scheme : List Char} :
    isScheme scheme = true ↔
      (∃ c ∈ scheme.head?, c.isAlpha = true) ∧ ∀ c ∈ scheme, isSchemeChar c = true := by
  rw [isScheme, Bool.and_eq_true, Option.any_eq_true, List.all_eq_true]
  rfl

theorem not_colon_of_isSchemeChar {c : Char} (h : isSchemeChar c = true) : c ≠ ':' := by
  rintro rfl
  cases h

theorem isSeen_of_isSchemeChar {c : Char} (h : isSchemeChar c = true) :
    0x21 ≤ c.toNat ∧ c.toNat ≤ 0x7e := by
  simp only [isSchemeChar, Bool.or_eq_true, decide_eq_true_eq] at h
  rcases h with ((h | rfl) | rfl) | rfl
  · have hc := isAlphanum_iff.mp h
    omega
  all_goals decide

theorem isKept_of_isSchemeChar {c : Char} (h : isSchemeChar c = true) :
    (!isBlank c && !isControl c) = true := by
  have hc := isSeen_of_isSchemeChar h
  have hn : isControl c = false := by
    simp only [isControl, Bool.or_eq_false_iff, Bool.and_eq_false_iff, decide_eq_false_iff_not]
    omega
  rw [isBlank_of_isSeen hc, hn]
  rfl

/-- A check passes over whatever a browser passes over. -/
theorem not_isKept_of_isLeading {c : Char} (h : isLeading c = true) :
    (!isBlank c && !isControl c) = false := by
  have hc : c.toNat ≤ 0x20 := of_decide_eq_true h
  rw [← Bool.not_or, Bool.not_eq_false', Bool.or_eq_true]
  by_cases hs : c.toNat = 0x20
  · exact .inl (CodeRanges.contains_iff.mpr ⟨(0x20, 0x20), by simp [blankRanges], by omega⟩)
  · refine .inr (Bool.or_eq_true_iff.mpr (.inl (decide_eq_true ?_)))
    omega

theorem isLeading_of_isLayout {c : Char} (h : isLayout c = true) : isLeading c = true := by
  simp only [isLayout, Bool.or_eq_true, decide_eq_true_eq] at h
  rcases h with (rfl | rfl) | rfl <;> rfl

theorem filter_dropWhile {α : Type} {p q : α → Bool} (h : ∀ a, q a = true → p a = false)
    (as : List α) : (as.dropWhile q).filter p = as.filter p := by
  induction as with
  | nil => rfl
  | cons a as ih =>
    cases hq : q a with
    | true => rw [List.dropWhile_cons_of_pos hq, ih, List.filter_cons_of_neg (by simp [h a hq])]
    | false => rw [List.dropWhile_cons_of_neg (by simp [hq])]

/-- Checking what a browser understands is checking the address itself. -/
theorem checkedAddress_browserAddress (address : List Char) :
    checkedAddress (browserAddress address) = checkedAddress address := by
  have hl : ∀ c, (!isBlank c && !isControl c && !isLayout c) = (!isBlank c && !isControl c) := by
    intro c
    cases hc : isLayout c with
    | true => rw [not_isKept_of_isLeading (isLeading_of_isLayout hc)]; rfl
    | false => rw [Bool.not_false, Bool.and_true]
  rw [checkedAddress, checkedAddress, browserAddress, List.filter_filter]
  simp only [hl]
  exact filter_dropWhile (fun _ => not_isKept_of_isLeading) address

/-- No scheme is lost by the check. -/
theorem HasScheme.checkedAddress {address scheme : List Char} (h : HasScheme address scheme) :
    HasScheme (checkedAddress address) scheme := by
  obtain ⟨rest, rfl⟩ := h.colon
  refine ⟨h.begins, h.chars, Operation.checkedAddress rest, ?_⟩
  have hk : scheme.filter (fun c => !isBlank c && !isControl c) = scheme :=
    List.filter_eq_self.mpr fun c hc => isKept_of_isSchemeChar (h.chars c hc)
  rw [Operation.checkedAddress, List.filter_append, hk]
  rfl

theorem HasScheme.cutAt? {address scheme : List Char} (h : HasScheme address scheme) :
    ∃ rest, Text.cutAt? ':' address = some (scheme, rest) := by
  obtain ⟨rest, hr⟩ := h.colon
  exact ⟨rest, cutAt?_eq_some.mpr
    ⟨fun hm => not_colon_of_isSchemeChar (h.chars _ hm) rfl, hr⟩⟩

/-- The check is passed exactly if there is no scheme but allowed ones in what is checked. -/
theorem isSafeAddress_iff {address : List Char} :
    isSafeAddress address = true ↔
      ∀ scheme, HasScheme (checkedAddress address) scheme → IsAllowedScheme scheme := by
  unfold isSafeAddress
  rw [← checkedAddress]
  constructor
  · intro h scheme hs
    obtain ⟨rest, hc⟩ := hs.cutAt?
    rw [hc] at h
    have hi : isScheme scheme = true := isScheme_iff.mpr ⟨hs.begins, hs.chars⟩
    simpa [hi, IsAllowedScheme] using h
  · intro h
    split
    · rfl
    · rename_i scheme rest hc
      cases hi : isScheme scheme with
      | false => rfl
      | true =>
        obtain ⟨hb, ha⟩ := isScheme_iff.mp hi
        simpa [IsAllowedScheme] using h scheme ⟨hb, ha, rest, (cutAt?_eq_some.mp hc).2⟩

theorem isLink_webAnchor (target label : String) :
    IsLink target label (webAnchor target label) := by
  simp only [webAnchor]
  split
  · rename_i h
    refine .anchor _ (not_mem_escapeChars (by simp) _) (fun d => d.decode_escapeChars _) ?_
    intro d scheme hs
    rw [d.decode_escapeChars] at hs
    have hc := hs.checkedAddress
    rw [checkedAddress_browserAddress] at hc
    exact isSafeAddress_iff.mp h scheme hc
  · rename_i h
    obtain ⟨scheme, hs⟩ := Classical.not_forall.mp fun hs => h (isSafeAddress_iff.mpr hs)
    obtain ⟨hs, hn⟩ := Classical.not_imp.mp hs
    exact .label scheme hs hn

end Operation

namespace Context

open Operation

variable {ctx : Context}

/-- No link leaves the list of allowed schemes, written in brackets or called by its name, whatever
its target and its label evaluate to, as long as no other operation takes its place. -/
theorem emit_link (hr : ctx.registry.get? Builtin.webLink.name = none) :
    (∀ target label v, ctx.emit (.webLink target label) = .ok v ↔
      ∃ t l, ctx.emit target = .ok t ∧ ctx.emit label = .ok l ∧
        v = .string (webAnchor t.toText l.toText)) ∧
      (∀ name args v, Text.lower name = Builtin.webLink.name →
        (ctx.emit (.call name args) = .ok v ↔
          ∃ values, ctx.emitAll args = .ok values ∧
            v = .string (webAnchor (argText values 0) (argText values 1)))) ∧
      ∀ target label, IsLink target label (webAnchor target label) := by
  refine ⟨fun target label v => ?_, fun name args v hn => ?_, isLink_webAnchor⟩
  · rw [emit, bind_eq_ok_iff]
    constructor
    · rintro ⟨t, ht, h⟩
      obtain ⟨l, hl, h⟩ := bind_eq_ok_iff.mp h
      rw [call_of_lower_eq hr (Builtin.lower_name _)] at h
      exact ⟨t, l, ht, hl, (Except.ok.inj h).symm⟩
    · rintro ⟨t, l, ht, hl, rfl⟩
      refine ⟨t, ht, bind_eq_ok_iff.mpr ⟨l, hl, ?_⟩⟩
      rw [call_of_lower_eq hr (Builtin.lower_name _)]
      rfl
  · rw [emit, bind_eq_ok_iff]
    refine exists_congr fun values => and_congr_right fun _ => ?_
    rw [call_of_lower_eq hr hn, Except.ok.injEq, eq_comm]
    rfl

/-- A tab hides no scheme, and without one there is an anchor. -/
theorem emit_link_script :
    let ctx : Context := ⟨.empty, [.string " java\tscript:alert(1)"], .ofTag "en", .excerpt⟩
    ctx.registry.get? Builtin.webLink.name = none ∧
      ctx.emit (.webLink (.placeholder 0) (.text "here")) = .ok (.string "here") ∧
      ctx.emit (.call "ExtLink" [.seq [.text "//", .placeholder 0], .text "here"]) =
        .ok (.string "<a href=\"// java\tscript:alert(1)\">here</a>") ∧
      ∀ label, IsLink " java\tscript:alert(1)" label label := by
  intro ctx
  have hr : ctx.registry.get? Builtin.webLink.name = none := by
    simp [ctx, Registry.get?, Registry.empty]
  obtain ⟨hw, hc, hl⟩ := emit_link hr
  have hs : ∀ label, webAnchor " java\tscript:alert(1)" label = label := by
    intro label
    rw [webAnchor, if_neg (by decide +kernel)]
  refine ⟨hr, (hw _ _ _).mpr ⟨.string _, .string _, rfl, rfl, ?_⟩,
    (hc _ _ _ (by decide +kernel)).mpr
      ⟨[.string "// java\tscript:alert(1)", .string "here"], ?_, ?_⟩, fun label => ?_⟩
  · exact congrArg Value.string (hs "here").symm
  · exact toOption_eq_some_iff.mp (by decide +kernel)
  · decide +kernel
  · have h := hl " java\tscript:alert(1)" label
    rwa [hs label] at h

end Context
end WikiMessage
