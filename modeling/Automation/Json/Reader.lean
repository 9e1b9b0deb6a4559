import Automation.Json.Basic
import Automation.Json.Encoding
import Automation.Text.Integer

/-!
# Reading JSON text

A reader of JSON text that also takes `NaN`, `Infinity` and `-Infinity`. A number with a fraction
or an exponent is a binary64 value, any other an integer; an escaped half of a surrogate pair is
kept where its partner is missing. Values may be nested to any depth, and an integer may have no
more digits than any integer in a text. A fault tells how much of the text was still unread.

## Main definitions

* `Json.ReadFault` — why a text is no JSON text, and the message about it.
* `Json.seenPoints` — the code points in front of what was still unread.
* `Json.read` — the value that a text spells.
-/

namespace Automation.Json

/-- What a reader expected or could not accept. -/
inductive Complaint where
  | valueExpected
  | nameExpected
  | colonExpected
  | commaExpected
  | unterminatedString
  | controlCharacter
  | unknownEscape
  | unicodeEscape
  | extraData
  | byteOrderMark
  deriving DecidableEq, Repr

/-- The wording of a complaint. -/
def Complaint.message : Complaint → String
  | .valueExpected => "Expecting value"
  | .nameExpected => "Expecting property name enclosed in double quotes"
  | .colonExpected => "Expecting ':' delimiter"
  | .commaExpected => "Expecting ',' delimiter"
  | .unterminatedString => "Unterminated string starting at"
  | .controlCharacter => "Invalid control character at"
  | .unknownEscape => "Invalid \\escape: "
  | .unicodeEscape => "Invalid \\uXXXX escape"
  | .extraData => "Extra data"
  | .byteOrderMark => "Unexpected UTF-8 BOM (decode using utf-8-sig)"

/-- Why a text is no JSON text: it breaks the grammar with `left` characters still unread, or an
integer has more digits than an integer may have. -/
inductive ReadFault where
  | malformed (complaint : Complaint) (left : Nat)
  | integerTooLong (digits : Nat)
  deriving DecidableEq, Repr

/-- The code points of a text in front of as many characters of it as are left. -/
def seenPoints (text : String) (left : Nat) : List Nat :=
  Text.points (text.toList.take (text.length - left))

/-- The message about a fault of a text, with line, column and offset. -/
def ReadFault.message (text : String) : ReadFault → String
  | .malformed complaint left =>
    let seen := seenPoints text left
    let line := seen.count '\n'.toNat + 1
    let column := (seen.reverse.takeWhile (· ≠ '\n'.toNat)).length + 1
    s!"{complaint.message}: line {line} column {column} (char {seen.length})"
  | .integerTooLong digits => Text.tooLongMessage digits

/-- A reading step: a result and the unread text, or a fault. -/
abbrev Reading (α : Type) := Except ReadFault (α × List Char)

/-- The fault of breaking the grammar in front of the characters given. -/
def malformedAt {α : Type} (complaint : Complaint) (cs : List Char) : Reading α :=
  .error (.malformed complaint cs.length)

/-- The blanks that JSON allows between tokens. -/
def isSpace (c : Char) : Bool := c = ' ' || c = '\t' || c = '\n' || c = '\r'

/-- What follows the blanks. -/
def skipSpace (cs : List Char) : List Char := cs.dropWhile isSpace

/-- Four hexadecimal digits, which some character has to follow, and the unread text. -/
def readHex4 : List Char → Option (Nat × List Char)
  | a :: b :: c :: d :: e :: rest => do
    let a ← Text.hexDigit? a
    let b ← Text.hexDigit? b
    let c ← Text.hexDigit? c
    let d ← Text.hexDigit? d
    some (((a * 16 + b) * 16 + c) * 16 + d, e :: rest)
  | _ => none

/-- The code point of a numbered escape: half of a surrogate pair needs a second escape to be more
than that. The text starts behind the letter that opens the escape, and `escape` is the text from
that letter on. -/
def readUnicodeEscape (escape cs : List Char) : Reading Nat :=
  match readHex4 cs with
  | none => malformedAt .unicodeEscape escape
  | some (high, rest) =>
    match rest with
    | '\\' :: 'u' :: pair =>
      if Text.isHighHalf high && 4 < pair.length then
        match readHex4 pair with
        | none => malformedAt .unicodeEscape ('u' :: pair)
        | some (low, rest') =>
          if Text.isLowHalf low then .ok (Text.pairPoint high low, rest')
          else .ok (high, rest)
      else .ok (high, rest)
    | _ => .ok (high, rest)

/-- The code point of an escape; the text starts behind the backslash. -/
def readEscape (cs : List Char) (opening : Nat) : Reading Nat :=
  match cs with
  | [] => .error (.malformed .unterminatedString opening)
  | c :: rest =>
    if c = '"' ∨ c = '\\' ∨ c = '/' then .ok (c.toNat, rest)
    else if c = 'b' then .ok (0x08, rest)
    else if c = 'f' then .ok (0x0C, rest)
    else if c = 'n' then .ok (0x0A, rest)
    else if c = 'r' then .ok (0x0D, rest)
    else if c = 't' then .ok (0x09, rest)
    else if c = 'u' then readUnicodeEscape cs rest
    else malformedAt .unknownEscape ('\\' :: cs)

/-- The rest of a string up to its closing quote. `opening` is the length of the text from the
opening quote on, `seen` the characters so far in reverse. The fuel bounds the characters. -/
def readStringTail (opening : Nat) : Nat → List Char → List Char → Reading String
  | 0, _, _ => .error (.malformed .unterminatedString opening)
  | _ + 1, _, [] => .error (.malformed .unterminatedString opening)
  | fuel + 1, seen, c :: rest =>
    if c = '"' then .ok (String.ofList seen.reverse, rest)
    else if c = '\\' then
      match readEscape rest opening with
      | .error fault => .error fault
      | .ok (point, rest') =>
        readStringTail opening fuel ((Text.spellPoint point).reverse ++ seen) rest'
    else if c.toNat < 32 then malformedAt .controlCharacter (c :: rest)
    else readStringTail opening fuel (c :: seen) rest

/-- A string; the text starts behind its opening quote. -/
def readString (cs : List Char) : Reading String :=
  readStringTail (cs.length + 1) (cs.length + 1) [] cs

/-- The leading ASCII digits of a text, and the rest. -/
def spanDigits (cs : List Char) : List Nat × List Char :=
  ((cs.takeWhile Char.isDigit).filterMap Text.asciiDigit?, cs.dropWhile Char.isDigit)

/-- The fraction of a number: none without a digit behind the point. -/
def readFraction : List Char → List Nat × List Char
  | '.' :: rest =>
    match spanDigits rest with
    | ([], _) => ([], '.' :: rest)
    | found => found
  | cs => ([], cs)

/-- The exponent of a number: none without a digit in it. -/
def readExponent : List Char → Option Int × List Char
  | [] => (none, [])
  | c :: rest =>
    if c = 'e' ∨ c = 'E' then
      let (negative, body) := Text.takeSign rest
      match spanDigits body with
      | ([], _) => (none, c :: rest)
      | (ds, rest') =>
        let magnitude : Int := Text.ofDigits ds
        (some (if negative then -magnitude else magnitude), rest')
    else (none, c :: rest)

/-- The digits in front of the point: a zero alone, or digits that start with no zero. -/
def readWhole : List Char → Option (List Nat × List Char)
  | [] => none
  | c :: rest =>
    if c = '0' then some ([0], rest)
    else if '1' ≤ c ∧ c ≤ '9' then some (spanDigits (c :: rest))
    else none

/-- A number. -/
def readNumber (cs : List Char) : Reading Number :=
  let (negative, body) := match cs with
    | '-' :: rest => (true, rest)
    | _ => (false, cs)
  match readWhole body with
  | none => malformedAt .valueExpected cs
  | some (whole, rest) =>
    let (fraction, rest) := readFraction rest
    let (exponent, rest) := readExponent rest
    if fraction.isEmpty && exponent.isNone then
      if Text.maxIntegerDigits < whole.length then .error (.integerTooLong whole.length)
      else
        let magnitude : Int := Text.ofDigits whole
        .ok (.int (if negative then -magnitude else magnitude), rest)
    else
      let digits := Text.ofDigits (whole ++ fraction)
      .ok (.float (.ofDecimal negative digits (exponent.getD 0 - fraction.length)), rest)

/-- The unread text behind a word that the text starts with. -/
def afterWord? : List Char → List Char → Option (List Char)
  | [], cs => some cs
  | w :: word, c :: cs => if w = c then afterWord? word cs else none
  | _ :: _, [] => none

/-- The values written as words. -/
def wordValues : List (String × Json) := [
  ("null", .null), ("true", .bool true), ("false", .bool false), ("NaN", .num (.float .nan)),
  ("Infinity", .num (.float (.infinite false))), ("-Infinity", .num (.float (.infinite true)))]

/-- A value written as a word. -/
def readWord? (cs : List Char) : Option (Json × List Char) :=
  wordValues.findSome? fun (word, value) => (afterWord? word.toList cs).map (value, ·)

/-- The unread text behind one character, or the complaint that it is missing. -/
def expectChar (c : Char) (complaint : Complaint) : List Char → Except ReadFault (List Char)
  | [] => .error (.malformed complaint 0)
  | d :: rest => if d = c then .ok rest else .error (.malformed complaint (rest.length + 1))

mutual
/-- A value, which starts right here. The fuel bounds the characters of the value. -/
def readValue : Nat → List Char → Reading Json
  | 0, cs => malformedAt .valueExpected cs
  | fuel + 1, cs =>
    match cs with
    | '"' :: rest =>
      match readString rest with
      | .error fault => .error fault
      | .ok (s, rest') => .ok (.str s, rest')
    | '\x7b' :: rest =>
      match skipSpace rest with
      | '\x7d' :: rest' => .ok (.obj [], rest')
      | body =>
        match readMembers fuel body with
        | .error fault => .error fault
        | .ok (pairs, rest') => .ok (.obj (Members.ofList pairs), rest')
    | '[' :: rest =>
      match skipSpace rest with
      | ']' :: rest' => .ok (.arr [], rest')
      | body =>
        match readElems fuel body with
        | .error fault => .error fault
        | .ok (elems, rest') => .ok (.arr elems, rest')
    | _ =>
      match readWord? cs with
      | some found => .ok found
      | none =>
        match readNumber cs with
        | .error fault => .error fault
        | .ok (n, rest) => .ok (.num n, rest)

/-- The elements of a list that is not empty, up to its closing bracket. -/
def readElems : Nat → List Char → Except ReadFault (List Json × List Char)
  | 0, cs => malformedAt .valueExpected cs
  | fuel + 1, cs => do
    let (value, rest) ← readValue fuel cs
    match skipSpace rest with
    | ']' :: rest' => .ok ([value], rest')
    | rest' =>
      let rest'' ← expectChar ',' .commaExpected rest'
      let (others, rest''') ← readElems fuel (skipSpace rest'')
      .ok (value :: others, rest''')

/-- The members of an object that is not empty, up to its closing brace. -/
def readMembers : Nat → List Char → Except ReadFault (Members × List Char)
  | 0, cs => malformedAt .valueExpected cs
  | fuel + 1, cs => do
    let cs ← expectChar '"' .nameExpected cs
    let (key, rest) ← readString cs
    let rest ← expectChar ':' .colonExpected (skipSpace rest)
    let (value, rest) ← readValue fuel (skipSpace rest)
    match skipSpace rest with
    | '\x7d' :: rest' => .ok ([(key, value)], rest')
    | rest' =>
      let rest'' ← expectChar ',' .commaExpected rest'
      let (others, rest''') ← readMembers fuel (skipSpace rest'')
      .ok ((key, value) :: others, rest''')
end

/-- The value that characters spell, blanks around it. -/
def readChars (cs : List Char) : Except ReadFault Json :=
  match readValue (cs.length + 1) (skipSpace cs) with
  | .error fault => .error fault
  | .ok (value, rest) =>
    match skipSpace rest with
    | [] => .ok value
    | rest' => .error (.malformed .extraData rest'.length)

/-- The value that a text spells. A text that starts with a byte order mark is malformed there. -/
def read (text : String) : Except ReadFault Json :=
  let cs := text.toList
  if cs.head? = some byteOrderMark then .error (.malformed .byteOrderMark cs.length)
  else readChars cs

end Automation.Json
