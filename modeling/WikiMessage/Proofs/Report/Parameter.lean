import WikiMessage.Proofs.Evaluation.Placeholder
import WikiMessage.Proofs.Report.Evaluate

/-!
# Parameters on the command line

A parameter that reads as an integer of 64 bits becomes one, and is shown in its shortest spelling.
All other parameters are texts and shown as they are given.
-/

namespace WikiMessage

open Catalog Markup Numeral

namespace Report

theorem toText_paramValue {raw : String} {n : Int} (h : Spells raw.toList n) (hn : IsWord n) :
    (paramValue raw).toText = signedText n := by
  unfold paramValue
  rw [readSigned?_eq_some_iff.mpr ⟨h, hn⟩]
  rfl

theorem paramValue_of_not_spells {raw : String}
    (h : ∀ n, IsWord n → ¬Spells raw.toList n) : paramValue raw = .string raw := by
  unfold paramValue
  cases hr : readSigned? raw.toList with
  | none => rfl
  | some n =>
    obtain ⟨hs, hn⟩ := readSigned?_eq_some_iff.mp hr
    exact absurd hs (h n hn)

theorem toText_paramValue_eq_iff {raw : String} : (paramValue raw).toText = raw ↔
    ∀ n, IsWord n → Spells raw.toList n → IsShortest raw.toList := by
  by_cases h : ∃ n, IsWord n ∧ Spells raw.toList n
  · obtain ⟨n, hn, hs⟩ := h
    rw [toText_paramValue hs hn, ← String.toList_inj, signedText, String.toList_ofList,
      hs.signedDigits_eq_iff]
    exact ⟨fun hi _ _ _ => hi, fun hi => hi n hn hs⟩
  · rw [paramValue_of_not_spells fun n hn hs => h ⟨n, hn, hs⟩]
    exact ⟨fun _ n hn hs => absurd ⟨n, hn, hs⟩ h, fun _ => rfl⟩

section

variable {data : LanguageData} {files : Files} {o : EvaluateOptions} {l : Localizer} {index : Nat}
  {raw : String}

/-- The command prints its parameter, whatever catalogs it loads. -/
theorem evaluate_eq_of_placeholder (hl : openLocalizer data files o = .ok l) (hk : o.key = none)
    (ht : o.template = some ("$" ++ Numeral.text (index + 1))) (htree : o.tree = false)
    (hj : o.json = false) (hb : index + 1 < unsignedBound) (hp : o.params[index]? = some raw) :
    evaluate data files o = .ok ⟨success, line (paramValue raw).toText, []⟩ := by
  have hc : chooseTemplate o l = .ok ("$" ++ Numeral.text (index + 1)) := by
    rw [chooseTemplate, hk, ht]
  have hr : (l.context (o.params.map paramValue)).registry.get? Operation.Builtin.concat.name =
      none := by
    rw [Localizer.context, registry_of_openLocalizer hl]
    rfl
  have hv : (l.context (o.params.map paramValue)).param index = paramValue raw := by
    simp [Context.param, Localizer.context, hp]
  rw [evaluate_eq_ok_iff]
  refine ⟨l, _, hl, hc, ?_⟩
  rw [showTemplate, htree, Localizer.renderAnew, Context.render_placeholder hr _ hb, hv]
  simp [showResult, hj]

/-- The message that is one placeholder is printed as its parameter was given, unless the parameter
is an integer of 64 bits in another spelling than its shortest; integers are printed in that one. A
machine's list has a length below the bound. -/
theorem evaluate_placeholder (hl : openLocalizer data files o = .ok l) (hk : o.key = none)
    (ht : o.template = some ("$" ++ Numeral.text (index + 1))) (htree : o.tree = false)
    (hj : o.json = false) (hb : o.params.length < unsignedBound)
    (hp : o.params[index]? = some raw) :
    ∃ shown, evaluate data files o = .ok ⟨success, shown ++ "\n", []⟩ ∧
      (∀ n, IsWord n → Spells raw.toList n → shown = signedText n) ∧
      ((∀ n, IsWord n → ¬Spells raw.toList n) → shown = raw) ∧
      (shown = raw ↔ ∀ n, IsWord n → Spells raw.toList n → IsShortest raw.toList) := by
  have hi : index + 1 < unsignedBound :=
    Nat.lt_of_le_of_lt (List.getElem?_eq_some_iff.mp hp).1 hb
  refine ⟨(paramValue raw).toText, evaluate_eq_of_placeholder hl hk ht htree hj hi hp,
    fun n hn hs => toText_paramValue hs hn, fun h => ?_, toText_paramValue_eq_iff⟩
  rw [paramValue_of_not_spells h, Value.toText_string]

end

/-- An integer in its shortest spelling, behind a text that is none. -/
theorem evaluate_placeholder_minus :
    evaluate .excerpt (.ofFound [] [])
        ⟨"en", some "$2", none, none, ["1.0", "-12"], false, false, false⟩ =
      .ok ⟨0, "-12\n", []⟩ := by
  obtain ⟨shown, he, -, -, hi⟩ := @evaluate_placeholder .excerpt (.ofFound [] [])
    ⟨"en", some "$2", none, none, ["1.0", "-12"], false, false, false⟩ _ 1 "-12" rfl rfl rfl rfl
    rfl (by decide) rfl
  rw [he, hi.mpr fun _ _ _ => .inr ⟨'1', ['2'], .inr rfl, by decide⟩]
  rfl

/-- Zeros in front of a number are not printed. -/
theorem evaluate_placeholder_zeros :
    evaluate .excerpt (.ofFound [] [])
          ⟨"en", some "$1", none, none, ["007"], false, false, false⟩ =
        .ok ⟨success, "7\n", []⟩ ∧
      "7\n" ≠ "007" ++ "\n" := by
  have he := @evaluate_eq_of_placeholder .excerpt (.ofFound [] [])
    ⟨"en", some "$1", none, none, ["007"], false, false, false⟩ _ 0 "007" rfl rfl rfl rfl rfl
    (by decide) rfl
  have hl : line (paramValue "007").toText = "7\n" := by decide +kernel
  rw [he, hl]
  exact ⟨rfl, by decide +kernel⟩

end Report
end WikiMessage
