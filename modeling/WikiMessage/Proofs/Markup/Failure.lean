import WikiMessage.Markup.Diagnostic
import WikiMessage.Proofs.Markup.Depth

/-!
# Where reading a message fails

Inside a construct reading may fail in many ways, but each of them only makes another rule read the
same characters. At the top of a message every character but two is then text, if nothing else: what
cannot be read are two opening braces that begin no call and a backslash with nothing after it.
-/

namespace WikiMessage.Markup

open WikiMessage.Text Rule

variable {links : Bool} {message : String}

/-- No expression begins here at the top of a message: two braces begin no call, or a backslash is
the last character. -/
def IsDeadEnd (links : Bool) (rest : List Char) : Prop :=
  (∃ inside, rest = '{' :: '{' :: inside) ∧
      call (expression rest.length) (Scope.top links) rest = none ∨
    rest = ['\\']

/-- At the top no sigil but two braces is kept from being text. -/
theorem isStray_top {c : Char} {cs : List Char} (hb : c ≠ '\\')
    (hp : (Scope.top links).isPlain c = false) (hs : isStray (Scope.top links) (c :: cs) = false) :
    c = '{' ∧ cs.head? = some '{' := by
  have hc : c = '{' ∨ c = '}' ∨ c = '$' ∨ c = '<' ∨ c = '[' ∨ c = ']' := by
    simp only [Scope.isPlain, Scope.top, Bool.not_false, ite_self, Bool.or_eq_true,
      decide_eq_true_eq] at hp
    grind
  rcases hc with rfl | rfl | rfl | rfl | rfl | rfl <;> simp [isStray, Scope.top] at hs
  exact ⟨rfl, hs⟩

theorem isDeadEnd_of_construct {inner : Scope → Rule Node} {cs : List Char} (hn : cs ≠ [])
    (h : construct inner (Scope.top links) cs = none) :
    (∃ inside, cs = '{' :: '{' :: inside) ∧ call inner (Scope.top links) cs = none ∨
      cs = ['\\'] := by
  obtain ⟨hc, -, -, -, -, ht, hs⟩ := construct_eq_none_iff.mp h
  have hn := plainChar_eq_none_iff.mp (textRun_eq_none_iff.mp ht)
  rcases hn with rfl | rfl | ⟨c, rest, rfl, hb, hp⟩
  · exact absurd rfl hn
  · exact .inr rfl
  · have hs' : isStray (Scope.top links) (c :: rest) = false := by
      cases hi : isStray (Scope.top links) (c :: rest) with
      | false => rfl
      | true => simp [stray, hi] at hs
    obtain ⟨rfl, hr⟩ := isStray_top hb hp hs'
    obtain ⟨inside, rfl⟩ := List.head?_eq_some_iff.mp hr
    exact .inl ⟨⟨inside, rfl⟩, hc⟩

/-- The part of a message that is left unread is an end of it at which nothing can be read. -/
theorem rest_of_parse_error {e : ParseError} (h : parse links message = .error e) :
    ∃ rest, e = .ofRest message rest ∧ rest <:+ message.toList ∧ rest ≠ [] ∧
      IsDeadEnd links rest := by
  obtain ⟨nodes, rest, rfl, hn, hr⟩ := parse_eq_error_iff.mp h
  have hs := hr.suffix (advances_expression _ _)
  have hl := hs.length_le
  have hf := hr.fails
  have hp := List.length_pos_iff.mpr hn
  refine ⟨rest, rfl, hs, hn, ?_⟩
  obtain ⟨depth, hd⟩ := Nat.exists_eq_succ_of_ne_zero (Nat.ne_of_gt (Nat.lt_of_lt_of_le hp hl))
  rw [hd] at hf hl
  rcases isDeadEnd_of_construct hn hf with ⟨hb, hc⟩ | hb
  · refine .inl ⟨hb, ?_⟩
    rwa [call_expression_eq (Nat.le_succ _) hl]
  · exact .inr hb

/-- Counting the bytes that the rest leaves of a message gives the characters in front of it. -/
theorem ParseError.offset_ofRest {before rest : List Char} (h : before ++ rest = message.toList) :
    (ParseError.ofRest message rest).offset = before.length := by
  have hb : byteCount (before ++ rest) - byteCount rest = byteCount before := by
    rw [byteCount_append, Nat.add_sub_cancel]
  simp only [ParseError.ofRest, ← h, hb, splitBytes?_append]

/-- No help is offered where a character was found, whichever it is. -/
theorem help_ofError {e : ParseError} {c : Char} (h : e.found = some c) (origin key : String) :
    (Diagnostic.ofError origin key e).help = none := by
  have ho : occursIn "end of input".toList e.reason.toList = false := by
    simp [ParseError.reason, h, occursIn, dropStart?]
  rw [Diagnostic.ofError, ho]
  rfl

/-- A message that cannot be read is refused at a character of its own, where two braces begin no
call or where it ends in a backslash, and the error names that character. All other messages are
read. -/
theorem parse_fails_at_dead_end (links : Bool) (message : String) :
    (∀ e, parse links message = .error e →
      e.offset < message.toList.length ∧ IsDeadEnd links (message.toList.drop e.offset) ∧
        (∃ c, message.toList[e.offset]? = some c ∧
          e.reason = "unexpected character '" ++ String.singleton c ++ "'") ∧
        e.reason ≠ "unexpected end of input" ∧
        ∀ origin key, (Diagnostic.ofError origin key e).help = none) ∧
      (occursIn ['{', '{'] message.toList = false → message.toList.getLast? ≠ some '\\' →
        ∃ tree, parse links message = .ok tree) := by
  constructor
  · intro e h
    obtain ⟨rest, rfl, ⟨before, hs⟩, hn, hd⟩ := rest_of_parse_error h
    have ho := ParseError.offset_ofRest hs
    have he : message.toList.drop (ParseError.ofRest message rest).offset = rest := by
      rw [ho, ← hs, List.drop_left]
    obtain ⟨c, tail, rfl⟩ := List.exists_cons_of_ne_nil hn
    have hr : (ParseError.ofRest message (c :: tail)).reason =
        "unexpected character '" ++ String.singleton c ++ "'" := rfl
    refine ⟨?_, by rwa [he], ⟨c, ?_, hr⟩, ?_, help_ofError rfl⟩
    · rw [ho, ← hs, List.length_append, List.length_cons]
      omega
    · rw [← List.head?_drop, he]
      rfl
    · intro hc
      have hc := congrArg String.toList (hr.symm.trans hc)
      simp at hc
  · intro hb hl
    cases h : parse links message with
    | ok tree => exact ⟨tree, rfl⟩
    | error e =>
      obtain ⟨rest, -, ⟨before, hs⟩, -, ⟨⟨inside, rfl⟩, -⟩ | rfl⟩ := rest_of_parse_error h
      · have ho : occursIn ['{', '{'] message.toList = true :=
          occursIn_iff.mpr ⟨before, inside, by rw [← hs]; simp⟩
        rw [hb] at ho
        cases ho
      · exact absurd (by rw [← hs]; simp) hl

/-- A call that is never closed, deep inside other constructs, and a message of stray sigils. -/
theorem parse_fails_at_dead_end_nested :
    (parse true "<b>[[p|\x7b\x7bx:$1" = .error ⟨"<b>[[p|\x7b\x7bx:$1", 7, some '{'⟩ ∧
      IsDeadEnd true "\x7b\x7bx:$1".toList) ∧
    (occursIn ['{', '{'] "</b>[[$0|\x7b <i a".toList = false ∧
      "</b>[[$0|\x7b <i a".toList.getLast? ≠ some '\\' ∧
      ∃ tree, parse true "</b>[[$0|\x7b <i a" = .ok tree) := by
  have h : parse true "<b>[[p|\x7b\x7bx:$1" = .error ⟨"<b>[[p|\x7b\x7bx:$1", 7, some '{'⟩ := by rfl
  have hb : occursIn ['{', '{'] "</b>[[$0|\x7b <i a".toList = false := by decide
  have hl : "</b>[[$0|\x7b <i a".toList.getLast? ≠ some '\\' := by decide
  exact ⟨⟨h, ((parse_fails_at_dead_end true _).1 _ h).2.1⟩, hb, hl,
    (parse_fails_at_dead_end true _).2 hb hl⟩

end WikiMessage.Markup
