import Automation.Web.HostName.Label
import Automation.Web.Punycode

/-!
# Host names

A host name is a row of labels with dots between them, and perhaps a dot at its end. A label in
another script goes by its ASCII form, which `xn--` announces.

## Main definitions

* `HostName.encode` — the ASCII form of a host name.
* `HostName.decode` — the labels that a host name in ASCII stands for.
-/

namespace Automation.HostName

/-- What announces the ASCII form of a label. -/
def announcement : List Char := ['x', 'n', '-', '-']

/-- The longest label. -/
def maxLabel : Nat := 63

/-- The dots of all scripts. -/
def isDot (c : Char) : Bool := [0x2E, 0x3002, 0xFF0E, 0xFF61].contains c.toNat

/-- The parts of a text between its dots. -/
def splitDots : List Char → List (List Char)
  | [] => [[]]
  | c :: rest =>
    if isDot c then [] :: splitDots rest
    else
      match splitDots rest with
      | part :: parts => (c :: part) :: parts
      | [] => [[c]]

/-- The labels of a host name, and whether a dot stands at its end. -/
def labelsOf (name : List Char) : Except Fault (List (List Char) × Bool) :=
  if maxGiven < name.length then .error .nameTooLong
  else if name = [] then .error .emptyName
  else
    let parts := splitDots name
    .ok (if parts.getLast? = some [] then (parts.dropLast, true) else (parts, false))

/-- The label, given by its code points, that a label in ASCII stands for. -/
def decodeLabel (label : List Char) : Except Fault (List Nat) := do
  let label := label.map Char.toLower
  if announcement.isPrefixOf label then
    let form := label.drop announcement.length
    if form = [] then .error .noContent
    else if form.getLast? = some '-' then .error .hyphenAtEnd
    else
      match Punycode.decode? form with
      | none => .error .unreadable
      | some points =>
        checkLabel points
        return points
  else
    checkLabel (label.map Char.toNat)
    return label.map Char.toNat

/-- The ASCII form of a label. -/
def encodeLabel (label : List Char) : Except Fault (List Char) := do
  let form ←
    if label.all fun c => c.toNat < 128 then do
      let _ ← decodeLabel label
      pure label
    else do
      checkLabel (label.map Char.toNat)
      pure (announcement ++ Punycode.encode label)
  if maxLabel < form.length then .error .labelTooLong else return form

/-- The ASCII form of a host name. -/
def encode (name : String) : Except Fault String := do
  let (labels, dotted) ← labelsOf name.toList
  let forms ← labels.mapM encodeLabel
  let text := ".".intercalate (forms.map String.ofList) ++ (if dotted then "." else "")
  if (if dotted then maxGiven else maxGiven - 1) < text.length then .error .nameTooLong
  else return text

/-- The labels, given by their code points, that a host name in ASCII stands for. -/
def decode (name : String) : Except Fault (List (List Nat)) := do
  let (labels, _) ← labelsOf name.toList
  labels.mapM decodeLabel

end Automation.HostName
