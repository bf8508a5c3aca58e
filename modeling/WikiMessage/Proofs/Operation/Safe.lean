import WikiMessage.Operation.Builtin
import WikiMessage.Proofs.Inflection.Safe
import WikiMessage.Proofs.Number.Format

/-!
# Operations on markup

A value is safe if its text is safe markup. Each built-in operation gives a safe value for safe
arguments, whichever arguments there are and whatever the language is, if no symbol of a language
opens a tag.
-/

namespace WikiMessage

open WikiMessage.Text Markup

def Value.IsSafe (d : Decoder) (v : Value) : Prop := SafeMarkup d v.toText.toList

variable {d : Decoder}

theorem Value.isSafe_string {s : String} (h : SafeMarkup d s.toList) : (string s).IsSafe d := h

theorem Value.isSafe_number (n : Int) : (number n).IsSafe d := .of_not_mem (not_mem_toText rfl)

theorem Value.isSafe_float (x : Numeral.Double) : (float x).IsSafe d :=
  .of_not_mem (not_mem_toText rfl)

theorem Value.isSafe_empty : empty.IsSafe d := .nil

theorem safe_arg {args : List Value} (h : ∀ v ∈ args, v.IsSafe d) (index : Nat) :
    (args[index]?.getD .empty).IsSafe d :=
  forall_getElem?_getD (P := Value.IsSafe d) h Value.isSafe_empty index

theorem safe_joinText {values : List Value} (h : ∀ v ∈ values, v.IsSafe d) :
    SafeMarkup d (Value.joinText values).toList := by
  rw [Value.joinText, String.toList_join, List.flatMap_map]
  exact .flatMap h

namespace Language

/-- The number and the equals sign that are taken off an explicit form are no part of a tag. -/
theorem safe_explicitForm? {form text : String} {x : Numeral.Double} (h : SafeMarkup d form.toList)
    (he : explicitForm? form = some (x, text)) : SafeMarkup d text.toList := by
  unfold explicitForm? at he
  split at he
  · rename_i ds cs hc
    obtain ⟨hd, he⟩ := Option.ite_none_right_eq_some.mp he
    obtain ⟨y, -, he⟩ := Option.map_eq_some_iff.mp he
    obtain ⟨rfl, rfl⟩ := Prod.mk.inj he
    rw [String.toList_ofList]
    rw [(cutAt?_eq_some.mp hc).2, ← List.singleton_append, ← List.append_assoc] at h
    refine h.of_append_right fun hm => ?_
    rcases List.mem_append.mp hm with hm | hm
    · cases List.all_eq_true.mp (Bool.and_eq_true_iff.mp hd).2 _ hm
    · cases List.mem_singleton.mp hm
  · cases he

variable {forms : List String}

theorem safe_pluralWith (rules : Plural.RuleSource) (l : Language) (count : Value)
    (h : ∀ f ∈ forms, SafeMarkup d f.toList) :
    SafeMarkup d (l.pluralWith rules count forms).toList := by
  simp only [pluralWith]
  split
  · rename_i text ht
    obtain ⟨x, -, ht⟩ := Option.bind_eq_some_iff.mp ht
    obtain ⟨⟨y, text⟩, hf, ht⟩ := Option.bind_eq_some_iff.mp ht
    obtain rfl := Option.some.inj ht
    obtain ⟨form, hm, he⟩ := List.mem_filterMap.mp (List.mem_of_find?_eq_some hf)
    exact safe_explicitForm? (h form hm) he
  · have hp : ∀ f ∈ positionalForms forms, SafeMarkup d f.toList :=
      fun f hf => h f (List.mem_filter.mp hf).1
    exact forall_getElem?_getD (P := fun f : String => SafeMarkup d f.toList) hp .nil _

theorem safe_gender (gender : String) (h : ∀ f ∈ forms, SafeMarkup d f.toList) :
    SafeMarkup d (Language.gender gender forms).toList := by
  refine forall_getElem?_getD (P := fun f : String => SafeMarkup d f.toList) h ?_ _
  rw [List.getLastD_eq_getLast?]
  cases hl : forms.getLast? with
  | none => exact .nil
  | some f => exact h f (List.mem_of_getLast? hl)

theorem safe_formatNumberWith {symbols : Number.SymbolSource} (ho : symbols.OpensNoTag)
    (l : Language) {v : Value} (h : v.IsSafe d) : (l.formatNumberWith symbols v).IsSafe d := by
  unfold formatNumberWith
  split
  · rename_i text ht
    exact .of_not_mem (Number.not_mem_format ho ht)
  · exact h

theorem safe_numberValue (x : Numeral.Double) : (numberValue x).IsSafe d := by
  unfold numberValue
  split
  · split
    · exact Value.isSafe_number _
    · exact Value.isSafe_float _
  · exact Value.isSafe_float _

theorem safe_parseNumberWith (symbols : Number.SymbolSource) (l : Language) {v : Value}
    (h : v.IsSafe d) : (l.parseNumberWith symbols v).IsSafe d := by
  unfold parseNumberWith
  split
  · split
    · exact safe_numberValue _
    · exact h
  · exact h

end Language

theorem safe_isolated {s : String} (h : SafeMarkup d s.toList) :
    SafeMarkup d (isolated s).toList := by
  unfold isolated
  split
  · rename_i direction _
    rw [String.toList_ofList]
    refine .char ?_ (h.after (by decide))
    cases direction <;> decide
  · exact h

namespace Operation

theorem isQuotable_escapeChars (cs : List Char) : ∀ c ∈ escapeChars cs, isQuotable c = true := by
  intro c hc
  have hn : ¬(c = '<' ∨ c = '>' ∨ c = '\x22' ∨ c = '\x27') :=
    fun h => not_mem_escapeChars h cs hc
  simpa [isQuotable, and_assoc] using hn

theorem safeTag_link (href : List Char) :
    SafeTag d "a" [⟨"href", String.ofList (escapeChars href)⟩] :=
  .link (by simpa using isQuotable_escapeChars href)

theorem safeTag_titledLink (href title : List Char) :
    SafeTag d "a" [⟨"href", String.ofList (escapeChars href)⟩,
      ⟨"title", String.ofList (escapeChars title)⟩] :=
  .titledLink (by simpa using isQuotable_escapeChars href)
    (by simpa using isQuotable_escapeChars title)

theorem safe_pageTitle {target : List Char} (h : SafeMarkup d target) :
    SafeMarkup d (pageTitle target) := by
  refine SafeMarkup.trimChars ?_
  cases hs : dropStart? [':'] target with
  | none => exact h
  | some rest =>
    rw [dropStart?_eq_some.mp hs] at h
    exact h.of_append_right (by decide)

theorem safe_pageAnchor {target : String} {label : Option String}
    (ht : SafeMarkup d target.toList) (hl : ∀ l ∈ label, SafeMarkup d l.toList) :
    SafeMarkup d (pageAnchor target label).toList := by
  have hi : SafeMarkup d (label.getD (String.ofList (pageTitle target.toList))).toList := by
    cases label with
    | none => simpa using safe_pageTitle ht
    | some l => exact hl l rfl
  have hp := safeTag_titledLink (d := d) (pageAddress (pageTitle target.toList))
    (pageTitle target.toList)
  simpa [pageAnchor, opening, closing, Attribute.print] using SafeMarkup.enclosed hp hi .nil

theorem safe_webAnchor {target label : String} (hl : SafeMarkup d label.toList) :
    SafeMarkup d (webAnchor target label).toList := by
  simp only [webAnchor]
  split
  · have hp := safeTag_link (d := d) (trimChars target.toList)
    simpa [opening, closing, Attribute.print] using SafeMarkup.enclosed hp hl .nil
  · exact hl

theorem safe_plural (rules : Plural.RuleSource) (l : Language) {args : List Value}
    (h : ∀ v ∈ args, v.IsSafe d) : (plural rules l args).IsSafe d := by
  unfold plural
  split
  · exact .nil
  · refine Value.isSafe_string (Language.safe_pluralWith rules l _ fun f hf => ?_)
    obtain ⟨v, hv, rfl⟩ := List.mem_map.mp hf
    exact h v (List.mem_cons_of_mem _ hv)

theorem safe_grammar (l : Language) {args : List Value} (h : ∀ v ∈ args, v.IsSafe d) :
    (grammar l args).IsSafe d := by
  have hw := safe_arg h 1
  simp only [grammar]
  split
  · exact hw
  · exact Value.isSafe_string (Inflection.safe_inflect hw)

theorem safe_formatNumber {symbols : Number.SymbolSource} (ho : symbols.OpensNoTag) (l : Language)
    {args : List Value} (h : ∀ v ∈ args, v.IsSafe d) : (formatNumber symbols l args).IsSafe d := by
  have hn := safe_arg h 0
  simp only [formatNumber]
  split
  · exact l.safe_parseNumberWith symbols hn
  · exact l.safe_formatNumberWith ho hn

theorem Builtin.safe_apply {data : LanguageData} (ho : data.symbols.OpensNoTag) (b : Builtin)
    (l : Language) {args : List Value} (h : ∀ v ∈ args, v.IsSafe d) :
    (b.apply data l args).IsSafe d := by
  cases b with
  | concat => exact safe_joinText h
  | plural => exact safe_plural data.rules l h
  | gender =>
    refine Value.isSafe_string (Language.safe_gender _ fun f hf => ?_)
    obtain ⟨v, hv, rfl⟩ := List.mem_map.mp hf
    exact h v (List.mem_of_mem_drop hv)
  | grammar => exact safe_grammar l h
  | bidi => exact safe_isolated (safe_arg h 0)
  | formatNumber => exact safe_formatNumber ho l h
  | pageLink =>
    refine Value.isSafe_string (safe_pageAnchor (safe_arg h 0) fun label hl => ?_)
    obtain ⟨v, hv, rfl⟩ := Option.map_eq_some_iff.mp hl
    exact h v (List.mem_of_getElem? hv)
  | webLink => exact safe_webAnchor (safe_arg h 1)

end Operation
end WikiMessage
