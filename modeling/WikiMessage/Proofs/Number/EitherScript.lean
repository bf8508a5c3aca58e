import Mathlib.Data.List.Forall2
import WikiMessage.Proofs.Language.Data
import WikiMessage.Proofs.Number.Script
import WikiMessage.Proofs.Text.Boundary

/-!
# Counts in either script

A text may hold digits of ASCII and digits of the language's script side by side. Two texts that
differ only in the script of their digits become one text when either script is chosen for all of
them. Plural forms are selected in digits of ASCII, so the script of a count has no say in them.
-/

namespace WikiMessage.Number

open WikiMessage.Text

/-- The same character, or the same digit in ASCII and in the script of the tag. -/
inductive SameDigit (tag : String) : Char → Char → Prop
  | refl (c : Char) : SameDigit tag c c
  | native {digits : String} {i : Nat} {c d : Char} (hs : scriptDigits? tag = some digits)
      (hc : latinDigits[i]? = some c) (hd : digits.toList[i]? = some d) : SameDigit tag c d
  | latin {digits : String} {i : Nat} {c d : Char} (hs : scriptDigits? tag = some digits)
      (hc : digits.toList[i]? = some c) (hd : latinDigits[i]? = some d) : SameDigit tag c d

variable {tag digits : String} {i : Nat} {c d : Char}

/-- What is the same for a digit of ASCII and the digit of the script in its place is the same for
all digits of one value. -/
theorem SameDigit.congr {α : Type} {f : Char → α} (h : SameDigit tag c d)
    (hf : ∀ {digits : String} {i : Nat} {c d : Char}, scriptDigits? tag = some digits →
      latinDigits[i]? = some c → digits.toList[i]? = some d → f c = f d) : f c = f d := by
  cases h with
  | refl => rfl
  | native hs hc hd => exact hf hs hc hd
  | latin hs hc hd => exact (hf hs hd hc).symm

/-- A character is kept, or the one in its place is put for it. -/
theorem swapDigit_cases {digits others : List Char} (h : digits.length = others.length)
    (c : Char) : swapDigit digits others c = c ∨
      ∃ i : Nat, digits[i]? = some c ∧ others[i]? = some (swapDigit digits others c) := by
  unfold swapDigit
  split
  · rename_i i hi
    obtain ⟨hl, rfl, -⟩ := List.idxOf?_eq_some_iff.mp hi
    have ho : i < others.length := by omega
    refine .inr ⟨i, List.getElem?_eq_getElem hl, ?_⟩
    rw [List.getElem?_eq_getElem ho, Option.getD_some]
  · exact .inl rfl

theorem isDigit_of_mem_latinDigits (h : c ∈ latinDigits) : c.isDigit = true := by
  have hd : latinDigits.all Char.isDigit = true := by decide +kernel
  exact List.all_eq_true.mp hd c h

/-- The character as it is when the digits of ASCII are replaced by those of the script. -/
def nativeChar (tag : String) (c : Char) : Char :=
  match scriptDigits? tag with
  | some digits => swapDigit latinDigits digits.toList c
  | none => c

theorem toNativeChars_eq_map (tag : String) (cs : List Char) :
    toNativeChars tag cs = cs.map (nativeChar tag) := by
  unfold toNativeChars nativeChar
  cases scriptDigits? tag with
  | none => exact (List.map_id' cs).symm
  | some digits => rfl

theorem sameDigit_latinChar (tag : String) (c : Char) : SameDigit tag c (latinChar tag c) := by
  cases hs : scriptDigits? tag with
  | none => simpa only [latinChar, hs] using SameDigit.refl c
  | some digits =>
    have hc : latinChar tag c = swapDigit digits.toList latinDigits c := by
      simp only [latinChar, hs]
    rw [hc]
    rcases swapDigit_cases (isScript_of_scriptDigits? hs).length c with he | ⟨i, hi, ho⟩
    · rw [he]
      exact .refl c
    · exact .latin hs hi ho

theorem sameDigit_nativeChar (tag : String) (c : Char) : SameDigit tag c (nativeChar tag c) := by
  cases hs : scriptDigits? tag with
  | none => simpa only [nativeChar, hs] using SameDigit.refl c
  | some digits =>
    have hc : nativeChar tag c = swapDigit latinDigits digits.toList c := by
      simp only [nativeChar, hs]
    rw [hc]
    rcases swapDigit_cases (isScript_of_scriptDigits? hs).length.symm c with he | ⟨i, hi, ho⟩
    · rw [he]
      exact .refl c
    · exact .native hs hi ho

theorem nativeChar_of_getElem? (hs : scriptDigits? tag = some digits)
    (hc : latinDigits[i]? = some c) (hd : digits.toList[i]? = some d) : nativeChar tag c = d := by
  have hn : latinDigits.Nodup := by decide +kernel
  simp only [nativeChar, hs]
  rw [swapDigit_of_getElem? hn hc, hd, Option.getD_some]

/-- A digit of a script is in that script already. -/
theorem nativeChar_of_mem (hs : scriptDigits? tag = some digits) (hc : c ∈ digits.toList) :
    nativeChar tag c = c := by
  simp only [nativeChar, hs]
  apply swapDigit_of_not_mem
  intro hm
  have ha := (isScript_of_scriptDigits? hs).not_isAscii c hc
  rw [isAscii_of_isDigit (isDigit_of_mem_latinDigits hm)] at ha
  cases ha

theorem latinChar_congr (h : SameDigit tag c d) : latinChar tag c = latinChar tag d := by
  refine h.congr fun hs hc hd => ?_
  rw [latinChar_of_getElem? hs hd hc]
  exact latinChar_of_isDigit (isDigit_of_mem_latinDigits (List.mem_of_getElem? hc))

theorem nativeChar_congr (h : SameDigit tag c d) : nativeChar tag c = nativeChar tag d := by
  refine h.congr fun hs hc hd => ?_
  rw [nativeChar_of_getElem? hs hc hd, nativeChar_of_mem hs (List.mem_of_getElem? hd)]

theorem isBlank_congr (h : SameDigit tag c d) : isBlank c = isBlank d := by
  refine h.congr fun hs hc hd => ?_
  have hl := isDigit_of_mem_latinDigits (List.mem_of_getElem? hc)
  rw [(latinDigitFacts hl).isBlank,
    (isScript_of_scriptDigits? hs).not_isBlank _ (List.mem_of_getElem? hd)]

/-- The two texts have the same characters but for the script of their digits. -/
def SameDigits (tag text other : String) : Prop :=
  List.Forall₂ (SameDigit tag) text.toList other.toList

variable {text other : String}

theorem SameDigits.map_eq {f : Char → Char} (h : SameDigits tag text other)
    (hf : ∀ {c d}, SameDigit tag c d → f c = f d) : text.toList.map f = other.toList.map f := by
  refine List.forall₂_eq_eq_eq ▸ ?_
  rw [List.forall₂_map_left_iff, List.forall₂_map_right_iff]
  exact h.imp fun _ _ hs => hf hs

theorem sameDigits_ofList_map {f : Char → Char} (hf : ∀ c, SameDigit tag c (f c))
    (text : String) : SameDigits tag text (String.ofList (text.toList.map f)) := by
  rw [SameDigits, String.toList_ofList, List.forall₂_map_right_iff, List.forall₂_same]
  exact fun c _ => hf c

theorem sameDigits_toLatin (tag text : String) : SameDigits tag text (toLatin tag text) := by
  rw [toLatin, toLatinChars_eq_map]
  exact sameDigits_ofList_map (sameDigit_latinChar tag) text

theorem sameDigits_toNative (tag text : String) : SameDigits tag text (toNative tag text) := by
  rw [toNative, toNativeChars_eq_map]
  exact sameDigits_ofList_map (sameDigit_nativeChar tag) text

theorem toLatin_congr (h : SameDigits tag text other) : toLatin tag text = toLatin tag other := by
  rw [toLatin, toLatin, toLatinChars_eq_map, toLatinChars_eq_map, h.map_eq latinChar_congr]

theorem toNative_congr (h : SameDigits tag text other) :
    toNative tag text = toNative tag other := by
  rw [toNative, toNative, toNativeChars_eq_map, toNativeChars_eq_map, h.map_eq nativeChar_congr]

end WikiMessage.Number

namespace WikiMessage.Language

open WikiMessage.Number WikiMessage.Text

/-- Digits are no blanks in either script, so a count is trimmed before or after its digits are
replaced. -/
theorem countText_string (l : Language) (count : String) :
    l.countText (.string count) =
      String.ofList (trimChars (count.toList.map (latinChar l.tag))) := by
  have hb : ∀ c, isBlank (latinChar l.tag c) = isBlank c := fun c =>
    (isBlank_congr (sameDigit_latinChar l.tag c)).symm
  rw [trimChars_map hb, countText, Language.toLatin, Number.toLatin, toList_trim,
    toLatinChars_eq_map]

theorem countText_congr {l : Language} {count other : String}
    (h : SameDigits l.tag count other) :
    l.countText (.string count) = l.countText (.string other) := by
  rw [countText_string, countText_string, h.map_eq latinChar_congr]

/-- Writing a text in one script forgets the script that it was written in, and a plural form is the
same for a count in digits of ASCII, in digits of the language, and in any mixture of the two. -/
theorem pluralWith_sameDigits :
    (∀ tag text, Number.toLatin tag (toNative tag text) = Number.toLatin tag text ∧
      toNative tag (Number.toLatin tag text) = toNative tag text) ∧
    ∀ (source : Plural.RuleSource) (l : Language) (count : String) (forms : List String),
      l.pluralWith source (.string (toNative l.tag count)) forms =
          l.pluralWith source (.string count) forms ∧
        ∀ mixed, SameDigits l.tag count mixed →
          l.pluralWith source (.string mixed) forms =
            l.pluralWith source (.string count) forms := by
  have hp {source : Plural.RuleSource} {l : Language} {count mixed : String} {forms : List String}
      (h : SameDigits l.tag count mixed) :
      l.pluralWith source (.string mixed) forms = l.pluralWith source (.string count) forms := by
    simp only [pluralWith, countText_congr h]
  refine ⟨fun tag text => ⟨?_, ?_⟩, fun source l count forms => ⟨?_, fun mixed h => hp h⟩⟩
  · exact (toLatin_congr (sameDigits_toNative tag text)).symm
  · exact (toNative_congr (sameDigits_toLatin tag text)).symm
  · exact hp (sameDigits_toNative l.tag count)

theorem pluralWith_sameDigits_arabic :
    SameDigits "ar" " 12" " ١2" ∧
      pluralWith LanguageData.excerpt.rules ⟨"ar", ["ar", "en"]⟩ (.string " ١2")
        ["zero", "one", "two", "few", "many", "other"] = "many" := by
  have hs : scriptDigits? "ar" = some "٠١٢٣٤٥٦٧٨٩" := by decide +kernel
  have hm : SameDigits "ar" " 12" " ١2" := by
    have h1 : SameDigit "ar" '1' '١' :=
      @SameDigit.native "ar" _ 1 '1' '١' hs (by decide +kernel) (by decide +kernel)
    simp only [SameDigits, String.reduceToList]
    exact .cons (.refl _) (.cons h1 (.cons (.refl _) .nil))
  have hp : pluralWith LanguageData.excerpt.rules ⟨"ar", ["ar", "en"]⟩ (.string " 12")
      ["zero", "one", "two", "few", "many", "other"] = "many" := by decide +kernel
  have hk := pluralWith_sameDigits.2 LanguageData.excerpt.rules ⟨"ar", ["ar", "en"]⟩ " 12"
    ["zero", "one", "two", "few", "many", "other"]
  exact ⟨hm, (hk.2 " ١2" hm).trans hp⟩

end WikiMessage.Language
