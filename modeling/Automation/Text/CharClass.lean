/-!
# Classes of characters

A class of characters is given by the code points at which membership in it changes.

## Main definitions

* `Text.inClass` — membership.
-/

namespace Automation.Text

/-- Whether a code point belongs to a class that changes at the given boundaries, which ascend and
begin outside of it: an odd number of them lies at or below it. -/
def inClass (boundaries : Array Nat) (n : Nat) : Bool :=
  (boundaries.foldl (fun count b => if b ≤ n then count + 1 else count) 0) % 2 = 1

end Automation.Text
