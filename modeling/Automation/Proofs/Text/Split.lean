import Mathlib.Data.String.Basic

/-!
# Splitting texts

Splitting a text on a separator of one character comes to splitting the list of its characters.

## Main statements

* `Text.splitOn_singleton` — the pieces of a text.
-/

namespace Automation.Text

theorem splitOnAux_singleton (s : String) (c : Char) (b i : String.Pos.Raw) (r : List String) :
    String.splitOnAux s (String.singleton c) b i 0 r = String.splitAux s (· == c) b i r := by
  have hget : String.Pos.Raw.get (String.singleton c) 0 = c := by
    simpa using String.get_of_valid [] [c]
  have hnext : String.Pos.Raw.next (String.singleton c) 0 = ⟨c.utf8Size⟩ := by
    simpa using String.next_of_valid [] c []
  have hend : (⟨c.utf8Size⟩ : String.Pos.Raw).atEnd (String.singleton c) = true := by
    simp [String.Pos.Raw.atEnd]
  induction b, i, r using String.splitAux.induct s (· == c) with
  | case1 b i r h =>
    unfold String.splitOnAux String.splitAux
    simp [h]
  | case2 b i r h hlt hc i' ih =>
    -- the separator is found at once, so the piece ends where the search stands
    have hback : (String.Pos.Raw.next s i).unoffsetBy ⟨c.utf8Size⟩ = i := by
      rw [beq_iff_eq] at hc
      simp [String.Pos.Raw.next, hc, String.Pos.Raw.unoffsetBy]
    unfold String.splitOnAux String.splitAux
    simpa [h, hc, hget, hnext, hend, hback] using ih
  | case3 b i r h hlt hc ih =>
    unfold String.splitOnAux String.splitAux
    simpa [h, hc, hget] using ih

/-- A text is split on a character where the character stands. -/
theorem splitOn_singleton (s : String) (c : Char) :
    s.splitOn (String.singleton c) = (s.toList.splitOn c).map String.ofList := by
  have hne : (String.singleton c == "") = false := by simp
  rw [String.splitOn, hne, if_neg Bool.false_ne_true, splitOnAux_singleton]
  exact String.splitToList_of_valid s _

theorem splitOn_slash (s : String) : s.splitOn "/" = (s.toList.splitOn '/').map String.ofList :=
  splitOn_singleton s '/'

theorem splitOn_dot (s : String) : s.splitOn "." = (s.toList.splitOn '.').map String.ofList :=
  splitOn_singleton s '.'

end Automation.Text
