import WikiMessage.Proofs.Markup.Position
import WikiMessage.Proofs.Report.Check
import WikiMessage.Proofs.Report.Evaluate

/-!
# The places that commands report

Checking and evaluating report a message that cannot be read at the place where reading stopped:
checking with its number of characters or as a diagnostic, evaluating as a diagnostic or with the
text of the error.
-/

namespace WikiMessage.Report

open Catalog Markup

/-- A notice of a message that was read as far as `before`. -/
inductive ShowsPlace (before rest : String) : Notice → Prop
  | diagnostic {d : Diagnostic} (h : d.Covers before rest) : ShowsPlace before rest (.diagnostic d)
  | described {e : ParseError} (h : e.PointsAt before rest) :
      ShowsPlace before rest (.line (line (Json.print (.object [("error", .string e.describe)]))))

theorem exists_pointsAt_of_mem_failures {files : Files} {links : Bool} {paths : List String}
    {path locale key : String} {e : ParseError}
    (h : .message path locale key e ∈ (checkFiles files links paths).failures) :
    ∃ store before rest, loadCatalog files path = .ok store ∧
      store.get? key locale = some (before ++ rest) ∧ rest ≠ "" ∧ e.PointsAt before rest := by
  rw [failures_checkFiles, List.mem_flatMap] at h
  obtain ⟨path', -, hf⟩ := h
  cases mem_failures_checkFile.mp hf with
  | @message store _ _ template _ hs hl ht hp =>
    obtain ⟨before, rest, rfl, hn, he⟩ := exists_pointsAt_of_parse hp
    exact ⟨store, before, rest, hs, ht, hn, he⟩

/-- A diagnostic of a check is that of one of its failures. -/
theorem exists_failure_of_mem_notices {wording : FaultWording} {files : Files} {o : CheckOptions}
    {d : Diagnostic} (h : .diagnostic d ∈ (check wording files o).notices) :
    ∃ path locale key e, .message path locale key e ∈ (checkFiles files o.links o.files).failures ∧
      d = .ofError (path ++ " [" ++ locale ++ "]") key e := by
  unfold check at h
  dsimp only at h
  split at h
  · cases h
  split at h
  · cases h
  rcases List.mem_append.mp h with h | h
  · obtain ⟨f, hf, hd⟩ := List.mem_map.mp h
    cases f with
    | file path error => cases hd
    | message path locale key e =>
      cases hd
      exact ⟨path, locale, key, e, hf, rfl⟩
  · cases List.mem_singleton.mp h

section

variable {o : EvaluateOptions} {template : String} {notice : Notice}

theorem exists_place_of_showTree (h : notice ∈ (showTree o template).notices) :
    ∃ before rest, template = before ++ rest ∧ rest ≠ "" ∧ ShowsPlace before rest notice := by
  unfold showTree at h
  cases hp : parse o.links template with
  | ok tree =>
    rw [hp] at h
    cases h
  | error e =>
    rw [hp] at h
    obtain rfl := List.mem_singleton.mp h
    obtain ⟨before, rest, ht, hn, he⟩ := exists_pointsAt_of_parse hp
    exact ⟨before, rest, ht, hn, .diagnostic (covers_ofError he _ _)⟩

theorem exists_error_of_showResult {result : Except RenderError String}
    (h : notice ∈ (showResult o result).notices) :
    ∃ e, result = .error e ∧ notice = errorNotice o e := by
  cases result with
  | ok text => cases h
  | error e => exact ⟨e, rfl, List.mem_singleton.mp h⟩

theorem showsPlace_errorNotice {e : ParseError} {before rest : String}
    (h : e.PointsAt before rest) :
    ShowsPlace before rest (errorNotice o (.unreadable e)) := by
  unfold errorNotice
  split
  · exact .described h
  · exact .diagnostic (covers_ofError h _ _)

/-- A notice shows the place of an error in the template, unless the template can be read. -/
theorem place_or_error_of_mem_notices {l : Localizer} (hl : l.links = o.links)
    (h : notice ∈ (showTemplate o l template).notices) :
    (∃ before rest, template = before ++ rest ∧ rest ≠ "" ∧ ShowsPlace before rest notice) ∨
      ∃ tree e, parse o.links template = .ok tree ∧ (∀ p, e ≠ .unreadable p) ∧
        notice = errorNotice o e := by
  unfold showTemplate at h
  split at h
  · exact .inl (exists_place_of_showTree h)
  · obtain ⟨e, he, rfl⟩ := exists_error_of_showResult h
    rw [Localizer.renderAnew, hl] at he
    cases hp : parse o.links template with
    | ok tree =>
      refine .inr ⟨tree, e, rfl, ?_, rfl⟩
      rintro p rfl
      have hn := (Context.render_eq_unreadable_iff _ _ _ p).mp he
      rw [hp] at hn
      cases hn
    | error e' =>
      rw [(Context.render_eq_unreadable_iff _ _ _ e').mpr hp] at he
      cases he
      obtain ⟨before, rest, ht, hn, he⟩ := exists_pointsAt_of_parse hp
      exact .inl ⟨before, rest, ht, hn, showsPlace_errorNotice he⟩

end

/-- An error of a message and a rest of it points between the two: it counts the characters and the
bytes in front of the rest, and its diagnostic covers the first character of the rest, from where it
begins to where it ends. Every error of parsing is such an error, with a rest that is not empty, and
so is every error of a message that checking or evaluating reports: they show no other place, and
evaluating reports anything else only of a template that can be read. -/
theorem reported_places :
    (∀ before rest origin key : String,
      (ParseError.ofRest (before ++ rest) rest.toList).PointsAt before rest ∧
        (Diagnostic.ofError origin key
          (ParseError.ofRest (before ++ rest) rest.toList)).Covers before rest) ∧
      (∀ links message e, parse links message = .error e →
        ∃ before rest, message = before ++ rest ∧ rest ≠ "" ∧ e.PointsAt before rest) ∧
      (∀ (files : Files) (o : CheckOptions) path locale key e,
        .message path locale key e ∈ (checkFiles files o.links o.files).failures →
        ∃ store before rest, loadCatalog files path = .ok store ∧
          store.get? key locale = some (before ++ rest) ∧ rest ≠ "" ∧ e.PointsAt before rest) ∧
      (∀ wording (files : Files) (o : CheckOptions) d,
        .diagnostic d ∈ (check wording files o).notices →
        ∃ before rest, rest ≠ "" ∧ d.Covers before rest) ∧
      ∀ data (files : Files) (o : EvaluateOptions) outcome, evaluate data files o = .ok outcome →
        ∃ template, (o.key = none → o.template = some template) ∧
          ∀ notice ∈ outcome.notices,
            (∃ before rest, template = before ++ rest ∧ rest ≠ "" ∧
              ShowsPlace before rest notice) ∨
            ∃ tree e, parse o.links template = .ok tree ∧ (∀ p, e ≠ .unreadable p) ∧
              notice = errorNotice o e := by
  refine ⟨fun before rest origin key => ?_, fun _ _ _ h => exists_pointsAt_of_parse h,
    fun _ _ _ _ _ _ h => exists_pointsAt_of_mem_failures h, fun wording files o d h => ?_,
    fun data files o outcome h => ?_⟩
  · have h := pointsAt_ofRest before rest
    exact ⟨h, covers_ofError h origin key⟩
  · obtain ⟨path, locale, key, e, hf, rfl⟩ := exists_failure_of_mem_notices h
    obtain ⟨-, before, rest, -, -, hn, he⟩ := exists_pointsAt_of_mem_failures hf
    exact ⟨before, rest, hn, covers_ofError he _ _⟩
  · obtain ⟨l, template, hl, ht, rfl⟩ := evaluate_eq_ok_iff.mp h
    refine ⟨template, fun hk => ?_, fun notice hn =>
      place_or_error_of_mem_notices (links_of_openLocalizer hl) hn⟩
    unfold chooseTemplate at ht
    rw [hk] at ht
    split at ht
    next => contradiction
    next h =>
      cases ht
      assumption
    next => cases ht

/-- Characters of two to four bytes in front of a call that is never closed. -/
theorem reported_places_multibyte :
    parse false "äß€😀\x7b\x7bx" = .error ⟨"äß€😀" ++ "\x7b\x7bx", 4, some '{'⟩ ∧
      (Diagnostic.ofError "fi.json [fi]" "price" ⟨"äß€😀" ++ "\x7b\x7bx", 4, some '{'⟩).Covers
        "äß€😀" "\x7b\x7bx" ∧ "äß€😀".utf8ByteSize = 11 :=
  ⟨rfl, (reported_places.1 "äß€😀" "\x7b\x7bx" "fi.json [fi]" "price").2, rfl⟩

end WikiMessage.Report
