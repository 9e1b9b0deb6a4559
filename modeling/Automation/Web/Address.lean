import Automation.Text.Integer

/-!
# Network addresses

The texts of network addresses: four numbers of one byte with dots between them, or eight groups
of hexadecimal digits with colons between them, of which a run of zeros may be left out.

## Main definitions

* `Web.isFourBytes` — whether a text is an address of four bytes.
* `Web.isEightGroups` — whether a text is an address of eight groups.
-/

namespace Automation.Web

/-- Whether a text is a number of one byte without zeros in front. -/
def isByte (part : String) : Bool :=
  let n := Text.ofDigits (part.toList.filterMap Text.asciiDigit?)
  part ≠ "" && part.toList.all Char.isDigit && part.length ≤ 3 && n ≤ 255 &&
    (part.length = 1 || part.toList.head? != some '0')

/-- Whether a text is an address of four bytes. -/
def isFourBytes (text : String) : Bool :=
  let parts := text.splitOn "."
  parts.length = 4 && parts.all isByte

/-- Whether a text is four groups of digits with dots between them. -/
def isFourNumbers (text : String) : Bool :=
  let parts := text.splitOn "."
  parts.length = 4 && parts.all fun part => part ≠ "" && part.toList.all Char.isDigit

/-- Whether a text is a group of one to four hexadecimal digits. -/
def isGroup (part : String) : Bool :=
  part ≠ "" && part.length ≤ 4 && part.toList.all fun c => (Text.hexDigit? c).isSome

/-- The groups with an address of four bytes at their end written as two groups. -/
def widened (groups : List String) : Option (List String) :=
  match groups.getLast? with
  | some last =>
    if !last.toList.contains '.' then some groups
    else if isFourBytes last then some (groups.dropLast ++ ["0", "0"])
    else none
  | none => none

/-- Whether groups stand in front of the gap in an address, or behind it: an empty one is the
colon at the end of the address and stands alone. -/
def areOutside (groups : List String) : Bool := groups = [""] || groups.all isGroup

/-- Whether groups are those of an address: eight of them, or fewer around one gap. -/
def areGroups (groups : List String) : Bool :=
  let inner := (groups.drop 1).dropLast
  match inner.findIdx? (· = "") with
  | none => groups.length = 8 && groups.all isGroup
  | some i =>
    let front := groups.take (i + 1)
    let back := groups.drop (i + 2)
    let count := ((front ++ back).filter (· ≠ "")).length
    areOutside front && areOutside back && count < 8

/-- An address without the name of its zone, which a percent sign announces. -/
def withoutZone? (text : String) : Option String :=
  match text.splitOn "%" with
  | [address] => some address
  | [address, zone] => if zone = "" then none else some address
  | _ => none

/-- Whether a text is an address of eight groups. -/
def isEightGroups (text : String) : Bool :=
  match withoutZone? text with
  | none => false
  | some address =>
    let groups := address.splitOn ":"
    !text.toList.contains '/' && 3 ≤ groups.length &&
      (match widened groups with
        | some groups => groups.length ≤ 9 && areGroups groups
        | none => false)

end Automation.Web
