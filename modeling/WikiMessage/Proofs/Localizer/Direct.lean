import WikiMessage.Proofs.Evaluation.Alike
import WikiMessage.Proofs.Localizer.Cache
import WikiMessage.Proofs.Locale.LetterCase

/-!
# Rendering without a localizer

A message may be rendered for a language by itself, without catalogs and a cache. Then the tag is
normalized first and its chain found afterwards, while a localizer finds the chain of the tag as it
is written. For tags of ASCII both ways give the same text, if capitals are of no importance for how
numbers are written.
-/

namespace WikiMessage

open Markup Operation WikiMessage.Locale

theorem Language.alike_ofTag {symbols : Number.SymbolSource} (hi : symbols.IgnoresCase)
    {tag : String} (h : IsAsciiTag tag) :
    Language.Alike symbols (.withFallbacks tag (builtinChain tag)) (.ofTag tag) where
  tag := rfl
  formatWith? number :=
    Number.formatWith?_congr hi number (h.map_lowerAscii_chain .builtin defaultFinal).symm

namespace Localizer

/-- What decides how a localizer renders a template, but for the reading of brackets and the data of
languages. -/
structure Settings where
  language : String
  finalFallback : String
  table : Option FallbackTable
  registry : Registry

def settings (l : Localizer) : Settings := ⟨l.language, l.finalFallback, l.table, l.registry⟩

/-- Only a choice of language and a new operation change the settings. -/
def Settings.after (s : Settings) : Request → Settings
  | .setLanguage language => { s with language := language }
  | .register name handler => { s with registry := s.registry.insert name handler }
  | _ => s

theorem Settings.fallbacks_after (s : Settings) (r : Request) :
    (s.after r).table = s.table ∧ (s.after r).finalFallback = s.finalFallback := by
  cases r <;> exact ⟨rfl, rfl⟩

theorem Settings.fallbacks_foldl (s : Settings) (requests : List Request) :
    (requests.foldl Settings.after s).table = s.table ∧
      (requests.foldl Settings.after s).finalFallback = s.finalFallback := by
  induction requests generalizing s with
  | nil => exact ⟨rfl, rfl⟩
  | cons r requests ih =>
    obtain ⟨ht, hf⟩ := ih (s.after r)
    obtain ⟨ht', hf'⟩ := s.fallbacks_after r
    exact ⟨ht.trans ht', hf.trans hf'⟩

theorem settings_withCache (l : Localizer) (cache : TreeCache) :
    (l.withCache cache).settings = l.settings := rfl

theorem settings_loadResult (l : Localizer) (source : Except Catalog.LoadError Json)
    (locale : Option String) : (l.loadResult source locale).1.settings = l.settings := by
  cases source <;> rfl

theorem settings_loadDirectory (l : Localizer) (files : Catalog.Files) (directory : String) :
    (l.loadDirectory files directory).1.settings = l.settings :=
  loadDirectory_induction (P := fun l' => l'.settings = l.settings)
    (fun _ _ _ _ _ l' h => (settings_loadResult l' _ _).trans h) rfl

theorem settings_answerAnew (l : Localizer) (r : Request) :
    (l.answerAnew r).1.settings = l.settings.after r := by
  cases r with
  | loadText json locale => exact settings_loadResult l _ _
  | loadFile files path locale => exact settings_loadResult l _ _
  | loadDirectory files directory => exact settings_loadDirectory l files directory
  | _ => rfl

theorem settings_runAnew (l : Localizer) (requests : List Request) :
    (l.runAnew requests).1.settings = requests.foldl Settings.after l.settings := by
  induction requests generalizing l with
  | nil => rfl
  | cons r requests ih => rw [runAnew_cons, ih, settings_answerAnew, List.foldl_cons]

/-- The language of a localizer with the built-in fallbacks is as good as that of its tag. -/
theorem context_alike {l : Localizer} {s : Settings} (h : l.settings = s) (hf : s.table = none)
    (hd : s.finalFallback = defaultFinal) (ha : IsAsciiTag s.language)
    (hi : l.data.symbols.IgnoresCase) (params : List Value) :
    (l.context params).Alike ⟨s.registry, params, .ofTag s.language, l.data⟩ := by
  subst h
  refine ⟨rfl, rfl, rfl, ?_⟩
  have hc : l.fallbackLocales = builtinChain l.language := by
    rw [fallbackLocales, show l.table = none from hf, show l.finalFallback = defaultFinal from hd,
      Option.getD_none, builtinChain]
  rw [context, currentLanguage, hc]
  exact Language.alike_ofTag hi ha

/-- A localizer with the built-in fallbacks renders every template as it is rendered without a
localizer, for the tag of its language and with the same operations, in whatever spelling the tag
is written in ASCII, if the symbols of a tag do not depend on capitals. Of all that was asked of the
localizer before, only the choice of the language and the registered operations count. -/
theorem render_eq_direct {data : LanguageData} (hi : data.symbols.IgnoresCase) (tag : String)
    (links : Bool) (requests : List Request) (template : String) (params : List Value) :
    let s := requests.foldl Settings.after ⟨tag, defaultFinal, none, .empty⟩
    IsAsciiTag s.language →
      (((create data tag defaultFinal links none).run requests).1.render template params).2 =
        (Context.mk s.registry params (.ofTag s.language) data).render links template := by
  intro s ha
  let start := create data tag defaultFinal links none
  obtain ⟨cache, hc, hr⟩ := (coherent_create data tag defaultFinal links none).run_eq requests
  obtain ⟨_, -, hrender⟩ := hc.render_eq template params
  have hs : ((start.runAnew requests).1.withCache cache).settings = s := by
    rw [settings_withCache, settings_runAnew]
    rfl
  have hd : (start.runAnew requests).1.data = data := (ignoresCache_runAnew requests).data start
  have hk : (start.runAnew requests).1.links = links := (ignoresCache_runAnew requests).links start
  obtain ⟨ht, hf⟩ := Settings.fallbacks_foldl ⟨tag, defaultFinal, none, .empty⟩ requests
  have halike := context_alike hs ht hf ha (hd.symm ▸ hi) params
  rw [hr, hrender, renderAnew, halike.render]
  show Context.render ⟨_, _, _, (start.runAnew requests).1.data⟩ (start.runAnew requests).1.links
    template = _
  rw [hd, hk]

/-- An operation is registered, and at last the language is that of Austria. -/
def austrian : List Request :=
  [.register "Count" fun args _ => .number args.length,
    .render "\x7b\x7bcount:a\x7d\x7d\x7b\x7b" [], .setLanguage " DE_at"]

theorem render_eq_direct_austrian :
    LanguageData.excerpt.symbols.IgnoresCase ∧
      IsAsciiTag (austrian.foldl Settings.after ⟨"en", defaultFinal, none, .empty⟩).language ∧
      (((create .excerpt "en" defaultFinal true none).run austrian).1.render
          "\x7b\x7bformatnum:$1\x7d\x7d \x7b\x7bCOUNT:a|b\x7d\x7d" [.number 1234567]).2 =
        .ok "1\u00a0234\u00a0567 2" := by
  have hi : LanguageData.excerpt.symbols.IgnoresCase := LanguageData.ignoresCase_excerpt
  have ha : IsAsciiTag
      (austrian.foldl Settings.after ⟨"en", defaultFinal, none, .empty⟩).language := by decide
  refine ⟨hi, ha, (render_eq_direct hi "en" true austrian _ _ ha).trans ?_⟩
  decide +kernel

end Localizer
end WikiMessage
