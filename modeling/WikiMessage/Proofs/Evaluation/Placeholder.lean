import WikiMessage.Proofs.Evaluation.Merged
import WikiMessage.Proofs.Markup.Links
import WikiMessage.Proofs.Markup.Ordinary
import WikiMessage.Proofs.Numeral.Signed

/-!
# Placeholders by number

A dollar sign and digits are a placeholder if their number is in the range of unsigned numbers and
not zero, and text otherwise. The index counts from zero, so that it can always be counted from one
again, and a placeholder without a parameter shows its number.
-/

namespace WikiMessage

open Markup Numeral Operation

namespace Markup

open WikiMessage.Text Rule

variable {ds : List Char} {index : Nat} {links : Bool}

theorem placeholder_digits (hd : ∀ c ∈ ds, c.isDigit = true) (hv : value ds = index + 1)
    (hb : index + 1 < unsignedBound) : placeholder ('$' :: ds) = some (.placeholder index, []) :=
  placeholder_eq_some_iff.mpr ⟨ds, index, rfl, by simp, hd, by simp, hv, hb⟩

/-- Zero is no placeholder, nor is a number out of range. -/
theorem placeholder_digits_eq_none (hd : ∀ c ∈ ds, c.isDigit = true)
    (hn : ¬(1 ≤ value ds ∧ value ds < unsignedBound)) : placeholder ('$' :: ds) = none := by
  refine Option.eq_none_iff_forall_ne_some.mpr fun ⟨node, rest⟩ hp => hn ?_
  obtain ⟨taken, n, -, he, -, hr, hv, hb⟩ := placeholder_eq_some_iff.mp hp
  obtain rfl := (List.cons.inj he).2
  -- a placeholder takes all digits, so its number is that of all of them
  cases rest with
  | nil =>
    rw [List.append_nil, hv]
    exact ⟨Nat.le_add_left 1 n, hb⟩
  | cons c rest =>
    have hc := hr c rfl
    rw [hd c (by simp)] at hc
    cases hc

theorem isOrdinary_of_isDigit (hd : ∀ c ∈ ds, c.isDigit = true) : IsOrdinary links ds := by
  have hm {c : Char} (hc : c.isDigit = false) : c ∉ ds := by
    intro h
    rw [hd c h] at hc
    cases hc
  have hchain {R : Char → Char → Prop} (h : ∀ c ∈ ds, ∀ d ∈ ds, R c d) : ds.IsChain R :=
    (List.pairwise_of_forall_mem_list h).isChain
  exact {
    noEscape := hm rfl
    noCall := hchain fun c hc d _ ⟨he, _⟩ => hm rfl (he ▸ hc)
    noPlaceholder := hchain fun c hc d _ ⟨he, _⟩ => hm rfl (he ▸ hc)
    noElement := hchain fun c hc d _ ⟨he, _⟩ => hm rfl (he ▸ hc)
    noLink := fun _ => hm rfl }

variable {d : String} {nodes : List Node}

theorem parse_dollar_of_run
    (h : Run (construct (expression d.toList.length) (Scope.top links)) ('$' :: d.toList) nodes []) :
    parse links ("$" ++ d) = .ok (.concat nodes) := by
  have hc : ("$" ++ d).toList = '$' :: d.toList := by simp
  refine parse_eq_ok_iff.mpr ⟨nodes, rfl, ?_⟩
  rw [hc]
  exact h

theorem parse_dollar_index (links : Bool) (hd : ∀ c ∈ d.toList, c.isDigit = true)
    (hv : value d.toList = index + 1) (hb : index + 1 < unsignedBound) :
    parse links ("$" ++ d) = .ok (.seq [.placeholder index]) := by
  have hr : Run (construct (expression d.toList.length) (Scope.top links)) ('$' :: d.toList)
      [.placeholder index] [] := by
    refine .step ?_ (.stop (advances_construct (advances_expression _) _).nil)
    rw [construct_dollar, placeholder_digits hd hv hb, Option.some_or]
  exact parse_dollar_of_run hr

/-- A placeholder is a message of its own. -/
theorem parse_placeholder (links : Bool) {index : Nat} (hb : index + 1 < unsignedBound) :
    parse links ("$" ++ Numeral.text (index + 1)) = .ok (.seq [.placeholder index]) := by
  have hc : (Numeral.text (index + 1)).toList = digits (index + 1) := String.toList_ofList
  refine parse_dollar_index links ?_ ?_ hb
  · rw [hc]
    exact fun c hc => Nat.isDigit_of_mem_toDigits (by decide) (by decide) hc
  · rw [hc, value_digits]

/-- The dollar sign is a text, and so are the digits behind it. -/
theorem parse_dollar_text (links : Bool) (hd : ∀ c ∈ d.toList, c.isDigit = true)
    (hn : ¬(1 ≤ value d.toList ∧ value d.toList < unsignedBound)) :
    parse links ("$" ++ d) = .ok (.seq [.text ("$" ++ d)]) := by
  have hs : construct (expression d.toList.length) (Scope.top links) ('$' :: d.toList) =
      some (.text (String.ofList ['$']), d.toList) := by
    rw [construct_dollar, placeholder_digits_eq_none hd hn, Option.none_or]
    exact stray_eq_some_iff.mpr ⟨'$', rfl, rfl, rfl⟩
  obtain ⟨nodes, hr, hm⟩ :=
    (isOrdinary_of_isDigit hd).exists_run (advances_expression d.toList.length)
  have ht : d.toList.flatMap textChar = d.toList := by
    have hp : ∀ c ∈ d.toList, textChar c = [c] := by
      intro c hc
      rw [textChar, if_neg]
      rintro rfl
      exact absurd (hd '<' hc) (by decide)
    rw [List.flatMap_congr hp, List.flatMap_singleton']
  have hm : Node.mergeTexts (.text (String.ofList ['$']) :: nodes) = [.text ("$" ++ d)] := by
    rw [Node.mergeTexts_cons, hm, ht, Node.mergeInto_ofText (List.cons_ne_nil _ _)]
    simp [Node.ofText, String.ofList_cons]
  rw [parse_dollar_of_run (.step hs hr), Node.concat, hm]

/-- The index of a placeholder, counted from one, is in the range of unsigned numbers. -/
def Node.IndexFits : Node → Prop
  | .placeholder index => index + 1 < unsignedBound
  | _ => True

theorem Produced.indexFits {s : Scope} {node : Node} (h : Produced s node) : node.IndexFits := by
  cases h with
  | placeholder hb => exact hb
  | _ => trivial

theorem indexFits_of_parse {message : String} {tree : Node} (h : parse links message = .ok tree) :
    ∀ n ∈ tree.visits, n.IndexFits :=
  forall_visits_of_parse (fun _ => trivial) (fun _ => trivial) (fun hp => hp.indexFits) h

end Markup

namespace Context

variable {ctx : Context} {links : Bool} {message : String}

/-- The message shows a text. If an operation is registered that joins texts in another way, it is
given this text alone. -/
def Shows (ctx : Context) (links : Bool) (message shown : String) : Prop :=
  ctx.render links message =
      (ctx.call Builtin.concat.name [.string shown]).map Value.toText ∧
    (ctx.registry.get? Builtin.concat.name = none → ctx.render links message = .ok shown)

theorem render_of_parse (hr : ctx.registry.get? Builtin.concat.name = none) {node : Node}
    (h : parse links message = .ok (.seq [node])) :
    ctx.render links message = ctx.evaluate node := by
  rw [render, h]
  dsimp only
  rw [evaluate_seq hr, map_joinText_emitAll_singleton]

theorem shows_of_parse {node : Node} {shown : String}
    (h : parse links message = .ok (.seq [node])) (he : ctx.emit node = .ok (.string shown)) :
    ctx.Shows links message shown := by
  refine ⟨?_, fun hr => ?_⟩
  · have ha : ctx.emitAll [node] = .ok [.string shown] := by
      rw [emitAll, he]
      rfl
    rw [render, h]
    dsimp only
    rw [evaluate, emit, ha]
    rfl
  · rw [render_of_parse hr h, evaluate, he]
    rfl

/-- Without an operation that joins texts in another way, the message shows its parameter. -/
theorem render_placeholder (hr : ctx.registry.get? Builtin.concat.name = none) (links : Bool)
    {index : Nat} (hb : index + 1 < unsignedBound) :
    ctx.render links ("$" ++ Numeral.text (index + 1)) = .ok (ctx.param index).toText :=
  render_of_parse hr (parse_placeholder links hb)

theorem param_of_length_le {index : Nat} (h : ctx.params.length ≤ index) :
    ctx.param index = .string ("$" ++ Numeral.text (index + 1)) := by
  rw [param, List.getElem?_eq_none h]
  rfl

/-- Digits behind a dollar sign are a placeholder if their number, whatever zeros are in front of
it, is at least one and one of 64 bits. Without a parameter it shows the number without these zeros.
Other digits are a text, which is shown as it is. The indices of all trees can be counted from
one in 64 bits. -/
theorem shows_dollar_digits (links : Bool) {d : String} {n : Nat} (hd : isDigits d.toList = true)
    (hv : value d.toList = n) :
    (1 ≤ n → n ≤ twoTo 64 - 1 →
      parse links ("$" ++ d) = .ok (.seq [.placeholder (n - 1)]) ∧
      Numeral.text n = String.ofList (d.toList.dropWhile (· = '0')) ∧
      ∀ ctx : Context, ctx.params.length < n →
        ctx.Shows links ("$" ++ d) ("$" ++ Numeral.text n)) ∧
    (¬(1 ≤ n ∧ n ≤ twoTo 64 - 1) →
      parse links ("$" ++ d) = .ok (.seq [.text ("$" ++ d)]) ∧
      ∀ ctx : Context, ctx.Shows links ("$" ++ d) ("$" ++ d)) ∧
    ∀ message tree index, parse links message = .ok tree → .placeholder index ∈ tree.visits →
      index < twoTo 64 - 1 := by
  have hc := (isDigits_iff.mp hd).2
  have hb : unsignedBound = twoTo 64 := rfl
  refine ⟨fun hl hu => ?_, fun hn => ?_, fun message tree index ht hi => ?_⟩
  · have hn : n - 1 + 1 = n := Nat.sub_add_cancel hl
    have hp := parse_dollar_index links hc (hv.trans hn.symm) (by omega)
    refine ⟨hp, ?_, fun ctx h => shows_of_parse hp ?_⟩
    · subst hv
      rw [Numeral.text, digits_value_eq_dropWhile hc hl]
    · rw [emit, param_of_length_le (Nat.le_sub_one_of_lt h), hn]
  · have hp := parse_dollar_text links hc (by omega)
    exact ⟨hp, fun ctx => shows_of_parse hp rfl⟩
  · have hf : index + 1 < unsignedBound := indexFits_of_parse ht _ hi
    omega

/-- Zeros in front of a placeholder's number are not shown, and a number of more than 64 bits is a
text. -/
theorem shows_dollar_digits_zeros : ∃ ctx : Context, ctx.params.length = 1 ∧
    ctx.render true "$007" = .ok "$7" ∧
    parse true "$18446744073709551616" = .ok (.seq [.text "$18446744073709551616"]) := by
  have hs := (@shows_dollar_digits true "007" 7 (by decide) (by decide)).1 (by decide) (by decide)
  have ho := (@shows_dollar_digits true "18446744073709551616" 18446744073709551616 (by decide)
    (by decide)).2.1 (by decide)
  exact ⟨⟨.empty, [.number 3], ⟨"en", []⟩, .excerpt⟩, rfl, (hs.2.2 _ (by decide)).2 rfl, ho.1⟩

end Context
end WikiMessage
