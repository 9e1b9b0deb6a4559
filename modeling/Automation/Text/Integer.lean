import Automation.Text.Quoted

/-!
# Integers in text

Decimal integers as people type them: blanks around, an optional sign, digits of any script, and
single underscores between digits. Texts of more than 4300 digits are refused.

## Main definitions

* `Text.isBlank` — the characters stripped around a number.
* `Text.digitValue?` — the value of a decimal digit of any script.
* `Text.readInteger` — the integer that a text spells, or why it spells none.
-/

namespace Automation.Text

/-- The blanks of all scripts; of the control characters, only the line and page breaks, the
tabs and the next-line character. -/
def isBlank (c : Char) : Bool :=
  let n := c.toNat
  9 ≤ n && n ≤ 13 || n = 32 || n = 0x85 || n = 0xA0 || n = 0x1680 || 0x2000 ≤ n && n ≤ 0x200A ||
    n = 0x2028 || n = 0x2029 || n = 0x202F || n = 0x205F || n = 0x3000

/-- The code points of the zeros of all scripts; each is followed by its other nine digits. -/
def zeros : List Nat := [
  48, 1632, 1776, 1984, 2406, 2534, 2662, 2790, 2918, 3046, 3174, 3302, 3430, 3558, 3664, 3792,
  3872, 4160, 4240, 6112, 6160, 6470, 6608, 6784, 6800, 6992, 7088, 7232, 7248, 42528, 43216,
  43264, 43472, 43504, 43600, 44016, 65296, 66720, 68912, 69734, 69872, 69942, 70096, 70384,
  70736, 70864, 71248, 71360, 71472, 71904, 72016, 72784, 73040, 73120, 92768, 92864, 93008,
  120782, 120792, 120802, 120812, 120822, 123200, 123632, 125264, 130032]

/-- The value of a decimal digit of any script. -/
def digitValue? (c : Char) : Option Nat :=
  (zeros.find? fun z => z ≤ c.toNat && c.toNat < z + 10).map (c.toNat - ·)

/-- The value of an ASCII decimal digit. -/
def asciiDigit? (c : Char) : Option Nat :=
  if '0' ≤ c ∧ c ≤ '9' then some (c.toNat - '0'.toNat) else none

/-- The value of a hexadecimal digit. -/
def hexDigit? (c : Char) : Option Nat :=
  if '0' ≤ c ∧ c ≤ '9' then some (c.toNat - '0'.toNat)
  else if 'a' ≤ c ∧ c ≤ 'f' then some (c.toNat - 'a'.toNat + 10)
  else if 'A' ≤ c ∧ c ≤ 'F' then some (c.toNat - 'A'.toNat + 10)
  else none

/-- The number that decimal digits spell. -/
def ofDigits (digits : List Nat) : Nat := digits.foldl (fun n d => 10 * n + d) 0

/-- The most digits of an integer that can be read from or written as text. -/
def maxIntegerDigits : Nat := 4300

/-- Why a text spells no integer. -/
inductive IntegerFault where
  | malformed
  | tooLong (digits : Nat)
  deriving DecidableEq, Repr

/-- The message about an integer of too many digits. -/
def tooLongMessage (digits : Nat) : String :=
  s!"Exceeds the limit ({maxIntegerDigits} digits) for integer string conversion: value has " ++
    s!"{digits} digits; use sys.set_int_max_str_digits() to increase the limit"

/-- The message about a text that was to be an integer; it shows the start of the text. -/
def IntegerFault.message (text : String) : IntegerFault → String
  | .malformed =>
    "invalid literal for int() with base 10: " ++ String.ofList ((quoted text).toList.take 200)
  | .tooLong digits => tooLongMessage digits

/-- A text without the blanks around it. -/
def trimBlanks (blank : Char → Bool) (cs : List Char) : List Char :=
  ((cs.dropWhile blank).reverse.dropWhile blank).reverse

/-- The digits of a numeral, in which single underscores may stand between digits, and the rest
of the text. -/
def takeNumeral (digit? : Char → Option Nat) (afterDigit : Bool) :
    List Char → List Nat × List Char
  | [] => ([], [])
  | c :: rest =>
    match digit? c with
    | some d =>
      let (ds, rest') := takeNumeral digit? true rest
      (d :: ds, rest')
    | none =>
      if afterDigit && c = '_' && (rest.head?.bind digit?).isSome then
        takeNumeral digit? false rest
      else ([], c :: rest)

/-- A text without its underscores, which may stand between other characters only. -/
def dropUnderscores? (cs : List Char) : Option (List Char) :=
  let doubled := (cs.zip cs.tail).contains ('_', '_')
  if cs.head? = some '_' ∨ cs.getLast? = some '_' ∨ !cs.contains '_' ∨ doubled then none
  else some (cs.filter (· ≠ '_'))

/-- A sign in front of a text: whether it is a minus, and what follows. -/
def takeSign : List Char → Bool × List Char
  | '-' :: rest => (true, rest)
  | '+' :: rest => (false, rest)
  | cs => (false, cs)

/-- The integer that a text spells. -/
def readInteger (text : String) : Except IntegerFault Int :=
  let (negative, body) := takeSign (trimBlanks isBlank text.toList)
  let (digits, rest) := takeNumeral digitValue? false body
  if digits.isEmpty || rest.head? = some '_' then .error .malformed
  else if maxIntegerDigits < digits.length then .error (.tooLong digits.length)
  else if rest ≠ [] then .error .malformed
  else
    let magnitude : Int := ofDigits digits
    .ok (if negative then -magnitude else magnitude)

end Automation.Text
