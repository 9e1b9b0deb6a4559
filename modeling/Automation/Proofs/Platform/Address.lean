import Automation.Identifier
import Automation.Platform.Address
import Automation.Platform.Call
import Automation.Proofs.Text.Percent

/-!
# Addresses of conversations

The path of a conversation has the id of the conversation as one segment, whatever the id is: it
neither ends early nor goes on into other segments, a query or a fragment, and no path swallows it.
The id can be read from its segment, so conversations with different ids are never addressed by one
path, whatever is called.

## Main definitions

* `Platform.Segment` — a segment stands for a text, and for nothing else.
* `Platform.OneSegment` — an id is addressed by one segment that stands for it, or not at all.

## Main statements

* `Platform.eq_of_path_eq` — a path tells the text of its segment and what stands behind it.
* `Platform.oneSegment_conversationPath` — all ids are addressed by one segment or not at all.
-/

namespace Automation

/-- The text of an identifier is the one that paths are made of. -/
theorem Identifier.plainText_toJson (id : Identifier) : id.toJson.plainText = id.toText := by
  cases id <;> rfl

namespace Platform

/-- The texts that no segment can stand for: a path swallows them. -/
def noSegment : List String := ["", ".", ".."]

/-- A segment of a path that stands for a text. -/
structure Segment (segment text : String) : Prop where
  /-- No path swallows it. -/
  stays : segment ∉ noSegment
  /-- It is made of unreserved characters and escapes. -/
  escaped : Text.Escaped segment.toList
  /-- Nothing in it separates the parts of a URL. -/
  inside : ∀ c ∈ segment.toList, c ≠ '/' ∧ c ≠ '?' ∧ c ≠ '#'
  /-- Its bytes are those of the text. -/
  bytes : (Text.percentBytes segment.toList).toByteArray = text.toUTF8
  /-- It is read as the text. -/
  decoded : Text.percentDecode segment = text

/-! ## Segments -/

section

variable {text : String}

theorem segment_mem_noSegment_iff : Text.segment text ∈ noSegment ↔ text ∈ noSegment := by
  have hkept : ∀ text ∈ noSegment, Text.segment text = text := by decide +kernel
  constructor
  · intro h
    have hsame : Text.segment text = text := Text.segment_injective (hkept _ h)
    rwa [hsame] at h
  · intro h
    rwa [hkept text h]

/-- What is written for a text stands for it. -/
theorem segment_of_not_mem (h : text ∉ noSegment) : Segment (Text.segment text) text where
  stays hmem := h (segment_mem_noSegment_iff.mp hmem)
  escaped := Text.escaped_segment text
  inside _ hmem := (Text.escaped_segment text).no_separator hmem
  bytes := by
    have hbytes : text.toList.utf8Encode = text.toUTF8 := by
      rw [String.toUTF8_eq_toByteArray, ← String.toByteArray_ofList, String.ofList_toList]
    rw [Text.percentBytes_segment, ← hbytes]
    rfl
  decoded := Text.percentDecode_segment text

end

/-! ## Paths -/

section

variable {id : Json} {suffix path : String}

theorem conversationPath_of_mem (h : id.plainText ∈ noSegment) :
    conversationPath id suffix = .error ⟨id⟩ :=
  if_pos (by simpa [noSegment] using segment_mem_noSegment_iff.mpr h)

theorem conversationPath_of_not_mem (h : id.plainText ∉ noSegment) : conversationPath id suffix =
    .ok ("/conversations/" ++ Text.segment id.plainText ++ suffix) :=
  if_neg (by simpa [noSegment] using fun hmem => h (segment_mem_noSegment_iff.mp hmem))

theorem path_of_eq_ok (h : conversationPath id suffix = .ok path) :
    path = "/conversations/" ++ Text.segment id.plainText ++ suffix := by
  by_cases hmem : id.plainText ∈ noSegment
  · rw [conversationPath_of_mem hmem] at h
    cases h
  · rw [conversationPath_of_not_mem hmem] at h
    exact (Except.ok.inj h).symm

/-- The resource of a call is the conversation itself, or lies below it. -/
theorem Call.resource_cases (call : Call) :
    call.resource = "" ∨ ∃ rest, call.resource.toList = '/' :: rest := by
  have hmessages : "/messages".toList = '/' :: "messages".toList := by decide +kernel
  have hlabels : "/labels".toList = '/' :: "labels".toList := by decide +kernel
  cases call with
  | update _ | fetch => exact .inl rfl
  | sendMessage _ _ _ => exact .inr ⟨_, hmessages⟩
  | addLabels _ | removeLabels _ => exact .inr ⟨_, hlabels⟩

/-- The segment of a path ends where its next part begins. -/
theorem takeWhile_segment {text : String}
    (h : suffix = "" ∨ ∃ rest, suffix.toList = '/' :: rest) :
    ((Text.segment text).toList ++ suffix.toList).takeWhile (· ≠ '/') =
      (Text.segment text).toList := by
  have hinside : ∀ c ∈ (Text.segment text).toList, decide (c ≠ '/') = true := fun c hc =>
    decide_eq_true ((Text.escaped_segment text).no_separator hc).1
  rw [List.takeWhile_append_of_pos hinside]
  rcases h with rfl | ⟨rest, hrest⟩
  · exact List.append_nil _
  · rw [hrest, List.takeWhile_cons_of_neg (by decide), List.append_nil]

/-- A path tells the text that its segment stands for, and what stands behind the segment. -/
theorem eq_of_path_eq {text other suffix suffix' : String}
    (hsuffix : suffix = "" ∨ ∃ rest, suffix.toList = '/' :: rest)
    (hsuffix' : suffix' = "" ∨ ∃ rest, suffix'.toList = '/' :: rest)
    (h : "/conversations/" ++ Text.segment text ++ suffix =
      "/conversations/" ++ Text.segment other ++ suffix') : other = text ∧ suffix' = suffix := by
  have hlists := congrArg String.toList h
  simp only [String.toList_append, List.append_assoc] at hlists
  have hbehind := List.append_cancel_left hlists
  -- behind the common start, the segment reaches up to the next slash
  have hsegment : (Text.segment text).toList = (Text.segment other).toList := by
    rw [← takeWhile_segment hsuffix, hbehind, takeWhile_segment hsuffix']
  rw [hsegment] at hbehind
  exact ⟨Text.segment_injective (String.toList_inj.mp hsegment.symm),
    String.toList_inj.mp (List.append_cancel_left hbehind).symm⟩

end

/-- An id is addressed by one segment that stands for its text, or by none. -/
structure OneSegment (id : Identifier) : Prop where
  /-- An id whose text a path would swallow is refused, whatever stands behind it. -/
  refused : id.toText ∈ noSegment → ∀ suffix,
    conversationPath id.toJson suffix = .error ⟨id.toJson⟩
  /-- Every other one has a segment, whatever stands behind it. -/
  addressed : id.toText ∉ noSegment → ∃ segment, Segment segment id.toText ∧ ∀ suffix,
    conversationPath id.toJson suffix = .ok ("/conversations/" ++ segment ++ suffix)
  /-- Ids that have a path in common have the same text. -/
  distinct : ∀ (other : Identifier) (suffix path : String),
    conversationPath id.toJson suffix = .ok path →
    conversationPath other.toJson suffix = .ok path → other.toText = id.toText
  /-- So have ids for which two calls have a path in common; the calls have the same resource. -/
  apart : ∀ (other : Identifier) (call otherCall : Call) (path : String),
    conversationPath id.toJson call.resource = .ok path →
    conversationPath other.toJson otherCall.resource = .ok path →
    other.toText = id.toText ∧ otherCall.resource = call.resource

/-- Whatever the id of a conversation is, its path has it as one segment, which tells its text. -/
theorem oneSegment_conversationPath (id : Identifier) : OneSegment id where
  refused h suffix := conversationPath_of_mem (id.plainText_toJson.symm ▸ h)
  addressed h := by
    refine ⟨Text.segment id.toText, segment_of_not_mem h, fun suffix => ?_⟩
    rw [← id.plainText_toJson] at h ⊢
    exact conversationPath_of_not_mem h
  distinct other suffix path h hother := by
    have hpaths := (path_of_eq_ok h).symm.trans (path_of_eq_ok hother)
    simp only [id.plainText_toJson, other.plainText_toJson, String.append_left_inj,
      String.append_right_inj] at hpaths
    exact Text.segment_injective hpaths.symm
  apart other call otherCall path h hother := by
    have hpaths := (path_of_eq_ok h).symm.trans (path_of_eq_ok hother)
    rw [id.plainText_toJson, other.plainText_toJson] at hpaths
    exact eq_of_path_eq call.resource_cases otherCall.resource_cases hpaths

end Platform

end Automation
