import WikiMessage.Proofs.Markup.Style

/-!
# Dangerous styles in their surroundings

A style is dangerous for a control or for a word in its small letters. What stands around a letter
has a say in one small letter only, that of the capital sigma, and no dangerous word has a sigma. So
a dangerous style stays dangerous in any surroundings, and in whatever case its letters A to Z are.
-/

namespace WikiMessage.Text

open LowerCase

theorem foldChar_toLower (c : Char) : foldChar c.toLower = foldChar c := by
  by_cases hc : isAscii c = true
  · have hl : isAscii c.toLower = true := by rwa [isAscii_toLower]
    have hs {d : Char} (hd : isAscii d = true) : d ≠ 'Σ' := by
      rintro rfl
      cases hd
    rw [foldChar, foldChar, if_neg (hs hl), if_neg (hs hc), lowerChar_of_isAscii hl,
      lowerChar_of_isAscii hc, toLower_toLower]
  · have hu : ¬(65 ≤ c.toNat ∧ c.toNat ≤ 90) := by
      rintro ⟨-, hu⟩
      exact hc (decide_eq_true (by omega))
    rw [toLower_eq_self hu]

theorem flatMap_foldChar_map_toLower (cs : List Char) :
    (cs.map Char.toLower).flatMap foldChar = cs.flatMap foldChar := by
  rw [List.flatMap_map]
  exact congrArg (fun f => cs.flatMap f) (funext foldChar_toLower)

end WikiMessage.Text

namespace WikiMessage.Markup

open WikiMessage.Text

theorem isStyleControl_toLower (c : Char) : isStyleControl c.toLower = isStyleControl c := by
  refine apply_toLower (fun c h => ?_) c
  rw [← Bool.not_eq_true]
  simp only [isStyleControl, Bool.or_eq_true, Bool.and_eq_true, decide_eq_true_eq]
  have ha := isAlpha_iff.mp h
  omega

/-- Nothing but the controls and the letters one by one makes a style dangerous. -/
theorem isDangerousStyle_iff_flatMap {style : String} : isDangerousStyle style = true ↔
    (∃ c ∈ style.toList, isStyleControl c = true) ∨
      ∃ w, IsDangerousWord w ∧ w <:+: style.toList.flatMap foldChar := by
  rw [isDangerousStyle_iff]
  exact or_congr_right (exists_congr fun w => and_congr_right fun hw => hw.infix_lowerChars_iff)

theorem isDangerousStyle_append {style : String} (h : isDangerousStyle style = true)
    (before after : String) : isDangerousStyle (before ++ style ++ after) = true := by
  rw [isDangerousStyle_iff_flatMap] at h ⊢
  simp only [String.toList_append, List.flatMap_append]
  rcases h with ⟨c, hc, hs⟩ | ⟨w, hw, h⟩
  · exact .inl ⟨c, by simp [hc], hs⟩
  · exact .inr ⟨w, hw, h.trans (List.infix_append _ _ _)⟩

theorem isDangerousStyle_lowerAscii (style : String) :
    isDangerousStyle (lowerAscii style) = isDangerousStyle style := by
  rw [Bool.eq_iff_iff, isDangerousStyle_iff_flatMap, isDangerousStyle_iff_flatMap,
    toList_lowerAscii, flatMap_foldChar_map_toLower]
  simp only [List.mem_map, exists_exists_and_eq_and, isStyleControl_toLower]

/-- A style is dangerous exactly if it has a control, or if its small letters hold `expression` or a
listed word with its mark behind it, anywhere and with any blanks between. So it is as dangerous in
any surroundings, and in either case of its letters A to Z. -/
theorem isDangerousStyle_not_hidden (style : String) :
    (isDangerousStyle style = true ↔
      (∃ c ∈ style.toList, isStyleControl c = true) ∨
        "expression".toList <:+: (lower style).toList ∨
        ∃ p ∈ dangerousWords, ∃ blanks, (∀ c ∈ blanks, isBlank c = true) ∧
          p.1.toList ++ blanks ++ [p.2] <:+: (lower style).toList) ∧
      (isDangerousStyle style = true →
        ∀ before after, isDangerousStyle (before ++ style ++ after) = true) ∧
      ∀ other, lowerAscii other = lowerAscii style →
        isDangerousStyle other = isDangerousStyle style := by
  refine ⟨?_, fun h before after => isDangerousStyle_append h before after, fun other h => ?_⟩
  · rw [isDangerousStyle_iff, toList_lower]
    refine or_congr_right ⟨?_, ?_⟩
    · rintro ⟨w, rfl | ⟨p, hp, blanks, hb, rfl⟩, h⟩
      · exact .inl h
      · exact .inr ⟨p, hp, blanks, hb, h⟩
    · rintro (h | ⟨p, hp, blanks, hb, h⟩)
      · exact ⟨_, .inl rfl, h⟩
      · exact ⟨_, .inr ⟨p, hp, blanks, hb, rfl⟩, h⟩
  · rw [← isDangerousStyle_lowerAscii other, h, isDangerousStyle_lowerAscii]

/-- A word in capitals with a no-break space behind it, between words that end in a sigma. -/
theorem isDangerousStyle_not_hidden_sigma :
    isDangerousStyle "\u00c9 url\u00a0(x" = true ∧
      isDangerousStyle ("ΟΣ " ++ "\u00c9 url\u00a0(x" ++ ") ΟΣ") = true ∧
      isDangerousStyle "\u00c9 URL\u00a0(X" = true := by
  have h : isDangerousStyle "\u00c9 url\u00a0(x" = true := by decide +kernel
  obtain ⟨-, hs, hc⟩ := isDangerousStyle_not_hidden "\u00c9 url\u00a0(x"
  refine ⟨h, hs h _ _, ?_⟩
  rw [hc _ (by decide +kernel), h]

end WikiMessage.Markup
