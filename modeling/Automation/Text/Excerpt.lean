/-!
# Excerpts of long text

The beginning and the end of a text that is too long to be shown whole. Lengths are counted in
UTF-8 bytes, and no character is cut in two.

## Main definitions

* `Text.excerpt` — a text of at most a number of bytes as it is, a longer one with its middle left
  out.
-/

namespace Automation.Text

/-- The longest front of a text within a number of bytes. -/
def takeBytes : Nat → List Char → List Char
  | _, [] => []
  | room, c :: rest =>
    if c.utf8Size ≤ room then c :: takeBytes (room - c.utf8Size) rest else []

/-- A text whose middle is left out when it has more than `limit` bytes. -/
def excerpt (limit : Nat) (s : String) : String :=
  if s.utf8ByteSize ≤ limit then s
  else
    let half := (limit + 1) / 2
    let front := takeBytes half s.toList
    let back := (takeBytes (half - 1) s.toList.reverse).reverse
    String.ofList front ++ "..." ++ String.ofList back

end Automation.Text
