import Mathlib.Data.String.Basic
import WikiMessage.Proofs.Markup.Failure

/-!
# The place of an error

Where a message is cut into what was read and a rest, the place of the error is found three times:
from the bytes that were read to a number of characters, from the number of characters back to one
of bytes, and from there to the character at fault. Characters have one to four bytes, but the cut
is between two of them, so all three find the same place.
-/

namespace WikiMessage.Markup

open WikiMessage.Text

theorem extract_append_append (before part after : String) :
    String.Pos.Raw.extract (before ++ part ++ after) ⟨before.utf8ByteSize⟩
      ⟨before.utf8ByteSize + part.utf8ByteSize⟩ = part := by
  have h := String.extract_of_valid before.toList part.toList after.toList
  simpa only [String.ofList_append, String.ofList_toList, String.utf8Len_toList] using h

theorem extract_start (before after : String) :
    String.Pos.Raw.extract (before ++ after) ⟨0⟩ ⟨before.utf8ByteSize⟩ = before := by
  simpa using extract_append_append "" before after

theorem extract_rest (before after : String) :
    String.Pos.Raw.extract (before ++ after) ⟨before.utf8ByteSize⟩ (before ++ after).rawEndPos =
      after := by
  have h := extract_append_append before after ""
  simpa [String.rawEndPos] using h

theorem isValid_append_byteSize (before after : String) :
    String.Pos.Raw.IsValid (before ++ after) ⟨before.utf8ByteSize⟩ :=
  String.Pos.Raw.isValid_iff_exists_append.mpr ⟨before, after, rfl, rfl⟩

/-- The error stands between the two parts of its message. -/
structure ParseError.PointsAt (e : ParseError) (before rest : String) : Prop where
  message_eq : e.message = before ++ rest
  /-- The bytes that the rest leaves of the message end with a character, and are what was read. -/
  isValid_consumed : String.Pos.Raw.IsValid e.message
    ⟨e.message.utf8ByteSize - rest.utf8ByteSize⟩
  consumed_eq : String.Pos.Raw.extract e.message ⟨0⟩
    ⟨e.message.utf8ByteSize - rest.utf8ByteSize⟩ = before
  offset_eq : e.offset = before.length
  byteOffset_eq : e.byteOffset = before.utf8ByteSize
  found_eq : e.found = rest.toList.head?

/-- The diagnostic shows the first character of the rest, or the end of the message if there is no
rest. -/
structure Diagnostic.Covers (d : Diagnostic) (before rest : String) : Prop where
  input_eq : d.input = before ++ rest
  offset_eq : d.offset = before.utf8ByteSize
  /-- A character begins at the place, or the message ends there. -/
  isValid_offset : String.Pos.Raw.IsValid d.input ⟨d.offset⟩
  rest_eq : String.Pos.Raw.extract d.input ⟨d.offset⟩ d.input.rawEndPos = rest
  isValid_end : String.Pos.Raw.IsValid d.input ⟨d.offset + d.length⟩
  covered_eq : String.Pos.Raw.extract d.input ⟨d.offset⟩ ⟨d.offset + d.length⟩ =
    String.ofList (rest.toList.take 1)

theorem pointsAt_ofRest (before rest : String) :
    (ParseError.ofRest (before ++ rest) rest.toList).PointsAt before rest := by
  have ho : (ParseError.ofRest (before ++ rest) rest.toList).offset = before.length := by
    rw [ParseError.offset_ofRest String.toList_append.symm, String.length_toList]
  have hb : (ParseError.ofRest (before ++ rest) rest.toList).byteOffset = before.utf8ByteSize := by
    have ht : (before ++ rest).toList.take before.length = before.toList := by
      rw [String.toList_append, ← String.length_toList, List.take_left]
    rw [ParseError.byteOffset, ho, byteCount_eq_utf8ByteSize, ParseError.ofRest, ht,
      String.ofList_toList]
  have hs : (before ++ rest).utf8ByteSize - rest.utf8ByteSize = before.utf8ByteSize := by simp
  have he : (ParseError.ofRest (before ++ rest) rest.toList).message = before ++ rest := rfl
  refine ⟨he, ?_, ?_, ho, hb, rfl⟩
  · rw [he, hs]
    exact isValid_append_byteSize before rest
  · rw [he, hs]
    exact extract_start before rest

theorem spanOffset_eq {e : ParseError} {before rest : String} (h : e.PointsAt before rest) :
    Diagnostic.spanOffset e = before.utf8ByteSize := by
  rw [Diagnostic.spanOffset, h.byteOffset_eq, byteCount_eq_utf8ByteSize, String.ofList_toList,
    h.message_eq, String.utf8ByteSize_append]
  omega

/-- The length of the span is that of the first character of the rest. -/
theorem spanLength_eq {e : ParseError} {before rest : String} (h : e.PointsAt before rest) :
    Diagnostic.spanLength e = (String.ofList (rest.toList.take 1)).utf8ByteSize := by
  have hb : before.utf8ByteSize = byteCount before.toList := by
    rw [byteCount_eq_utf8ByteSize, String.ofList_toList]
  rw [Diagnostic.spanLength, spanOffset_eq h, h.message_eq, hb, String.toList_append,
    splitBytes?_append]
  cases rest.toList with
  | nil => rfl
  | cons c cs => simp

theorem covers_ofError {e : ParseError} {before rest : String} (h : e.PointsAt before rest)
    (origin key : String) : (Diagnostic.ofError origin key e).Covers before rest := by
  have hi : (Diagnostic.ofError origin key e).input = before ++ rest := h.message_eq
  have ho : (Diagnostic.ofError origin key e).offset = before.utf8ByteSize := spanOffset_eq h
  have hl : (Diagnostic.ofError origin key e).length =
      (String.ofList (rest.toList.take 1)).utf8ByteSize := spanLength_eq h
  have hr : before ++ rest = before ++ String.ofList (rest.toList.take 1) ++
      String.ofList (rest.toList.drop 1) := by
    rw [String.append_assoc, ← String.ofList_append, List.take_append_drop, String.ofList_toList]
  refine ⟨hi, ho, ?_, ?_, ?_, ?_⟩
  · rw [hi, ho]
    exact isValid_append_byteSize before rest
  · rw [hi, ho]
    exact extract_rest before rest
  · rw [hi, ho, hl, hr, ← String.utf8ByteSize_append]
    exact isValid_append_byteSize _ _
  · rw [hi, ho, hl, hr]
    exact extract_append_append _ _ _

/-- An error of a message stands in front of a character of the message. -/
theorem exists_pointsAt_of_parse {links : Bool} {message : String} {e : ParseError}
    (h : parse links message = .error e) :
    ∃ before rest, message = before ++ rest ∧ rest ≠ "" ∧ e.PointsAt before rest := by
  obtain ⟨rest, rfl, ⟨before, hs⟩, hn, -⟩ := rest_of_parse_error h
  have hm : message = String.ofList before ++ String.ofList rest := by
    rw [← String.ofList_append, hs, String.ofList_toList]
  refine ⟨String.ofList before, String.ofList rest, hm, by simpa using hn, ?_⟩
  have hp := pointsAt_ofRest (String.ofList before) (String.ofList rest)
  rwa [← hm, String.toList_ofList] at hp

end WikiMessage.Markup
