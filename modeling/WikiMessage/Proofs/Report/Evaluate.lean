import WikiMessage.Proofs.Evaluation.Safe
import WikiMessage.Proofs.Localizer.Direct
import WikiMessage.Report.Evaluate

/-!
# Evaluating on the command line

The command makes a localizer, loads catalogs into it if it is given a directory of them, finds the
template and then shows its tree or what it renders to. Nothing else decides what it does.
-/

namespace WikiMessage.Report

open Catalog Markup

/-- The localizer of the command before anything is loaded. -/
def emptyLocalizer (data : LanguageData) (o : EvaluateOptions) : Localizer :=
  .create data o.locale Locale.defaultFinal o.links none

/-- The localizer that the command renders with. -/
def openLocalizer (data : LanguageData) (files : Files) (o : EvaluateOptions) :
    Except CommandError Localizer :=
  match o.messages with
  | none => .ok (emptyLocalizer data o)
  | some directory =>
    match (emptyLocalizer data o).loadDirectory files directory with
    | (l, .ok _) => .ok l
    | (_, .error e) => .error (.load e)

/-- What the command shows of a template. -/
def showTemplate (o : EvaluateOptions) (l : Localizer) (template : String) : Outcome :=
  if o.tree then showTree o template
  else showResult o (l.renderAnew template (o.params.map paramValue))

variable {data : LanguageData} {files : Files} {o : EvaluateOptions} {l : Localizer}

theorem openLocalizer_cases (h : openLocalizer data files o = .ok l) :
    l = emptyLocalizer data o ∨
      ∃ directory, l = ((emptyLocalizer data o).loadDirectory files directory).1 := by
  unfold openLocalizer at h
  cases hm : o.messages with
  | none =>
    rw [hm] at h
    exact .inl (Except.ok.inj h).symm
  | some directory =>
    rw [hm] at h
    dsimp only at h
    split at h
    next l' n hl =>
      cases h
      exact .inr ⟨directory, by rw [hl]⟩
    next => cases h

theorem links_of_openLocalizer (h : openLocalizer data files o = .ok l) : l.links = o.links := by
  rcases openLocalizer_cases h with rfl | ⟨directory, rfl⟩
  · rfl
  · exact (Localizer.ignoresCache_loadDirectory files directory).links _

theorem coherent_of_openLocalizer (h : openLocalizer data files o = .ok l) : l.Coherent := by
  have hc : (emptyLocalizer data o).Coherent := Localizer.coherent_create _ _ _ _ _
  rcases openLocalizer_cases h with rfl | ⟨directory, rfl⟩
  · exact hc
  · exact hc.of_ignoresCache (Localizer.ignoresCache_loadDirectory files directory)

theorem registry_of_openLocalizer (h : openLocalizer data files o = .ok l) :
    l.registry = .empty := by
  rcases openLocalizer_cases h with rfl | ⟨directory, rfl⟩
  · rfl
  · exact congrArg (·.registry) (Localizer.settings_loadDirectory _ files directory)

/-- The command succeeds with a localizer and a template, and then it is the localizer without its
cache that counts. -/
theorem evaluate_eq_ok_iff {outcome : Outcome} : evaluate data files o = .ok outcome ↔
    ∃ l template, openLocalizer data files o = .ok l ∧ chooseTemplate o l = .ok template ∧
      outcome = showTemplate o l template := by
  have he : evaluate data files o = openLocalizer data files o >>= fun l =>
      chooseTemplate o l >>= fun template =>
        if o.tree then .ok (showTree o template)
        else .ok (showResult o (l.render template (o.params.map paramValue)).2) := by
    unfold evaluate openLocalizer emptyLocalizer
    cases o.messages with
    | none => rfl
    | some directory =>
      dsimp only
      rcases (Localizer.create data o.locale Locale.defaultFinal o.links none).loadDirectory files
        directory with ⟨l, e | n⟩ <;> rfl
  rw [he, bind_eq_ok_iff]
  refine exists_congr fun l => ?_
  rw [exists_and_left]
  refine and_congr_right fun hl => ?_
  rw [bind_eq_ok_iff]
  refine exists_congr fun template => and_congr_right fun _ => ?_
  obtain ⟨cache, -, hr⟩ :=
    (coherent_of_openLocalizer hl).render_eq template (o.params.map paramValue)
  rw [showTemplate, hr]
  split <;> simp [eq_comm]

end WikiMessage.Report
