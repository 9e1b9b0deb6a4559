import Automation.Proofs.Text.Utf8
import Automation.Text.Percent
import Automation.Web.Query

/-!
# Segments are read as the texts that they were written for

A text written as a segment of a path holds unreserved characters and escapes only, so no character
in it means anything to a URL. Its escapes are those of the text's bytes, and reading it gives the
text back; two texts are never written alike.

## Main definitions

* `Text.Escaped` — a text of unreserved characters and escapes.

## Main statements

* `Text.escaped_segment` — a segment is one.
* `Text.percentBytes_segment`, `Text.percentDecode_segment` — its bytes and its text.
-/

namespace Automation.Text

/-- The digits that escapes are written with. -/
def escapeDigits : List Char := "0123456789ABCDEF".toList

/-- A text of unreserved characters and escapes. -/
inductive Escaped : List Char → Prop where
  | nil : Escaped []
  | kept {c : Char} {rest : List Char} : isUnreserved c = true → Escaped rest → Escaped (c :: rest)
  | escape {high low : Char} {rest : List Char} : high ∈ escapeDigits → low ∈ escapeDigits →
      Escaped rest → Escaped ('%' :: high :: low :: rest)

variable {cs rest : List Char} {c : Char}

theorem upperHexChar_mem : ∀ d < 16, upperHexChar d ∈ escapeDigits := by decide

theorem hexDigit?_upperHexChar : ∀ d < 16, hexDigit? (upperHexChar d) = some d := by decide

/-- A character of an escaped text is unreserved or part of an escape. -/
theorem Escaped.of_mem (h : Escaped cs) (hmem : c ∈ cs) : isUnreserved c = true ∨ c = '%' := by
  have hdigit : ∀ c ∈ escapeDigits, isUnreserved c = true :=
    List.all_eq_true.mp (by decide)
  induction h with
  | nil => cases hmem
  | kept hkept _ ih =>
    rcases List.mem_cons.mp hmem with rfl | hmem
    · exact .inl hkept
    · exact ih hmem
  | escape hhigh hlow _ ih =>
    simp only [List.mem_cons] at hmem
    rcases hmem with rfl | rfl | rfl | hmem
    · exact .inr rfl
    · exact .inl (hdigit _ hhigh)
    · exact .inl (hdigit _ hlow)
    · exact ih hmem

/-- No character of an escaped text separates the parts of a URL. -/
theorem Escaped.no_separator (h : Escaped cs) (hmem : c ∈ cs) : c ≠ '/' ∧ c ≠ '?' ∧ c ≠ '#' := by
  rcases h.of_mem hmem with hkept | rfl
  · refine ⟨?_, ?_, ?_⟩ <;> rintro rfl <;> exact absurd hkept (by decide)
  · decide

/-! ## Writing -/

theorem Escaped.percentByte (byte : UInt8) (h : Escaped rest) :
    Escaped (percentByte byte ++ rest) := by
  have hbyte : byte.toNat < 256 := byte.toNat_lt
  exact .escape (upperHexChar_mem _ (by omega)) (upperHexChar_mem _ (by omega)) h

theorem Escaped.percentBytes (bytes : List UInt8) (h : Escaped rest) :
    Escaped (bytes.flatMap Text.percentByte ++ rest) := by
  induction bytes with
  | nil => exact h
  | cons byte bytes ih =>
    rw [List.flatMap_cons, List.append_assoc]
    exact ih.percentByte byte

/-- What is written as a segment is unreserved or escaped. -/
theorem escaped_percentEncode (cs : List Char) : Escaped (percentEncode isUnreserved cs) := by
  induction cs with
  | nil => exact .nil
  | cons c rest ih =>
    rw [percentEncode, List.flatMap_cons]
    split
    next hkept => exact .kept hkept ih
    next => exact ih.percentBytes _

theorem escaped_segment (s : String) : Escaped (segment s).toList := by
  rw [segment, String.toList_ofList]
  exact escaped_percentEncode s.toList

/-! ## Reading -/

theorem percentBytes_cons (h : c ≠ '%') :
    percentBytes (c :: rest) = String.utf8EncodeChar c ++ percentBytes rest := by
  rw [percentBytes]
  -- the equation holds only where no escape begins
  rintro high low cs rfl
  exact absurd rfl h

/-- An escape is read as its byte. -/
theorem percentBytes_percentByte (byte : UInt8) :
    percentBytes (percentByte byte ++ rest) = byte :: percentBytes rest := by
  have hbyte : byte.toNat < 256 := byte.toNat_lt
  have hwhole : byte.toNat / 16 * 16 + byte.toNat % 16 = byte.toNat := by omega
  simp only [percentByte, List.cons_append, List.nil_append, percentBytes,
    hexDigit?_upperHexChar _ (show byte.toNat / 16 < 16 by omega),
    hexDigit?_upperHexChar _ (show byte.toNat % 16 < 16 by omega), hwhole, UInt8.ofNat_toNat]

theorem percentBytes_flatMap (bytes : List UInt8) :
    percentBytes (bytes.flatMap percentByte ++ rest) = bytes ++ percentBytes rest := by
  induction bytes with
  | nil => rfl
  | cons byte bytes ih =>
    rw [List.flatMap_cons, List.append_assoc, percentBytes_percentByte, ih, List.cons_append]

/-- What was written is read as the bytes of the text, whatever is kept but percent signs. -/
theorem percentBytes_percentEncode {keep : Char → Bool} (h : keep '%' = false) (cs : List Char) :
    percentBytes (percentEncode keep cs) = cs.flatMap String.utf8EncodeChar := by
  induction cs with
  | nil => rfl
  | cons c rest ih =>
    rw [percentEncode] at ih ⊢
    rw [List.flatMap_cons, List.flatMap_cons]
    split
    next hkept =>
      have hc : c ≠ '%' := by
        rintro rfl
        rw [h] at hkept
        cases hkept
      rw [List.singleton_append, percentBytes_cons hc, ih]
    next => rw [percentChar, percentBytes_flatMap, ih]

theorem percentBytes_segment (s : String) :
    percentBytes (segment s).toList = s.toList.flatMap String.utf8EncodeChar := by
  rw [segment, String.toList_ofList, percentBytes_percentEncode rfl]

/-- A segment is read as the text that it was written for. -/
theorem percentDecode_segment (s : String) : percentDecode (segment s) = s := by
  rw [percentDecode, percentBytes_segment, ofUtf8_flatMap, String.ofList_toList]

theorem segment_injective {s t : String} (h : segment s = segment t) : s = t := by
  rw [← percentDecode_segment s, h, percentDecode_segment]

end Automation.Text
