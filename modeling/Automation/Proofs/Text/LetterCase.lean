import Automation.Text.Codec
import Automation.Text.LetterCase

/-!
# Letter case of ASCII texts

In an ASCII text only the capitals from `A` to `Z` have other small letters, each of them one, and
no letter depends on what stands around it.

## Main definitions

* `Text.asciiLower` — an ASCII text in small letters.

## Main statements

* `Text.lower_of_ascii` — small letters of ASCII texts.
-/

namespace Automation.Text

/-- The small letter of an ASCII character. -/
def asciiLowerChar (c : Char) : Char :=
  if 65 ≤ c.toNat ∧ c.toNat ≤ 90 then Char.ofNat (c.toNat + 32) else c

/-- An ASCII text in small letters. -/
def asciiLower (s : String) : String := String.ofList (s.toList.map asciiLowerChar)

/-- A code point in front of all runs is its own counterpart. -/
theorem counterpart_of_lt {runs : List CaseRun} {n : Nat} (h : ∀ run ∈ runs, n < run.first) :
    counterpart runs n = n := by
  have hnone : runs.find? (·.contains n) = none := by
    rw [List.find?_eq_none]
    intro run hrun hcontains
    have hfirst : run.first ≤ n := by
      simp only [CaseRun.contains, Bool.and_eq_true, decide_eq_true_eq] at hcontains
      exact hcontains.1.1
    exact absurd (h run hrun) (Nat.not_lt.mpr hfirst)
  rw [counterpart, hnone]

/-- The capitals of ASCII come first, and all others behind ASCII. -/
theorem ofNat_counterpart_capitalRuns {c : Char} (h : isAscii c = true) :
    Char.ofNat (counterpart capitalRuns c.toNat) = asciiLowerChar c := by
  have hruns : capitalRuns = ⟨65, 90, 1, 32⟩ :: capitalRuns.tail := rfl
  have htail : ∀ run ∈ capitalRuns.tail, 128 ≤ run.first := by decide +kernel
  have hlt : c.toNat < 128 := by simpa [isAscii] using h
  rw [asciiLowerChar]
  by_cases hcapital : 65 ≤ c.toNat ∧ c.toNat ≤ 90
  · have hcontains : (CaseRun.mk 65 90 1 32).contains c.toNat = true := by
      simp [CaseRun.contains, hcapital, Nat.mod_one]
    rw [if_pos hcapital, counterpart, hruns, List.find?_cons, hcontains]
    rfl
  · have hcontains : (CaseRun.mk 65 90 1 32).contains c.toNat = false := by
      simpa [CaseRun.contains, Nat.mod_one] using hcapital
    have hrest : counterpart capitalRuns c.toNat = counterpart capitalRuns.tail c.toNat := by
      rw [counterpart, hruns, List.find?_cons, hcontains]
      rfl
    have hbehind : ∀ run ∈ capitalRuns.tail, c.toNat < run.first := fun run hrun =>
      Nat.lt_of_lt_of_le hlt (htail run hrun)
    rw [if_neg hcapital, hrest, counterpart_of_lt hbehind, Char.ofNat_toNat]

theorem lowerChar_of_ascii {before after : List Char} {c : Char} (h : isAscii c = true) :
    lowerChar before c after = [asciiLowerChar c] := by
  have hsigma : c ≠ capitalSigma := by
    rintro rfl
    exact absurd h (by decide)
  have hdotted : c ≠ dottedCapital := by
    rintro rfl
    exact absurd h (by decide)
  rw [lowerChar, if_neg hsigma, if_neg hdotted, ofNat_counterpart_capitalRuns h]

theorem lowerFrom_of_ascii {cs : List Char} (h : cs.all isAscii = true) (before : List Char) :
    lowerFrom before cs = cs.map asciiLowerChar := by
  induction cs generalizing before with
  | nil => rfl
  | cons c rest ih =>
    rw [List.all_cons, Bool.and_eq_true] at h
    rw [lowerFrom, lowerChar_of_ascii h.1, ih h.2]
    rfl

theorem lower_of_ascii {s : String} (h : s.toList.all isAscii = true) : lower s = asciiLower s := by
  rw [lower, lowerFrom_of_ascii h, asciiLower]

end Automation.Text
