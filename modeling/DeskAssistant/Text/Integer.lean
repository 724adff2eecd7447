import DeskAssistant.Text.Blank
import DeskAssistant.Text.DecimalDigit

/-!
# Decimal integers

A spelling of an integer is an optional sign and decimal digits. At most `digitLimit` digits are
converted; leading zeros count, the sign does not. `readInteger` takes the longest spelling in
ASCII digits at the beginning of a text, after blanks, and leaves the rest. `parseInteger` reads a
whole text, allows digits of every script, and a single underscore between two digits.
-/

set_option autoImplicit false
set_option relaxedAutoImplicit false

namespace DeskAssistant.Text

/-- The number of digits beyond which a spelling is not converted. -/
def digitLimit : Nat := 4300

/-- A spelling has more than `digitLimit` digits. -/
structure TooManyDigits where
  digits : Nat
  deriving Repr, DecidableEq

def TooManyDigits.message (fault : TooManyDigits) : String :=
  "Exceeds the limit (" ++ toString digitLimit ++
    " digits) for integer string conversion: value has " ++ toString fault.digits ++
    " digits; use sys.set_int_max_str_digits() to increase the limit"

/-- The number written by digits, most significant first, behind the digits read so far. -/
def valueOnto (value : Nat) (digits : List Nat) : Nat :=
  digits.foldl (fun value digit ↦ value * 10 + digit) value

/-- Applies a sign to the number written by digits, if there are not too many of them. -/
def signed (negative : Bool) (digits : List Nat) : Except TooManyDigits Int :=
  if digitLimit < digits.length then .error ⟨digits.length⟩
  else
    let value : Int := valueOnto 0 digits
    .ok (if negative then -value else value)

/-- Whether a text begins with a minus, and what follows its sign. -/
def splitSign : List Char → Bool × List Char
  | '-' :: rest => (true, rest)
  | '+' :: rest => (false, rest)
  | text => (false, text)

theorem splitSign_cons_of_ne {c : Char} (hminus : c ≠ '-') (hplus : c ≠ '+') (rest : List Char) :
    splitSign (c :: rest) = (false, c :: rest) := by
  unfold splitSign
  split
  · next heq => exact absurd (List.cons.inj heq).1 hminus
  · next heq => exact absurd (List.cons.inj heq).1 hplus
  · rfl

/-! ### An integer at the beginning of a text -/

/-- The integer at the beginning of a text, after blanks, and the rest; `none` when no ASCII digit
follows the blanks and at most one sign. -/
def readInteger (text : List Char) : Except TooManyDigits (Option (Int × List Char)) :=
  let (negative, body) := splitSign (skipBlanks text)
  let isDigit := fun c ↦ (asciiDigitValue? c).isSome
  let digits := (body.takeWhile isDigit).filterMap asciiDigitValue?
  if digits.isEmpty then .ok none
  else (signed negative digits).map (fun value ↦ some (value, body.dropWhile isDigit))

/-- The integer at a position of a text, after blanks, and the position behind its last digit. -/
def readIntegerAt (text : List Char) (position : Nat) :
    Except TooManyDigits (Option (Int × Nat)) :=
  (readInteger (text.drop position)).map (·.map fun (value, rest) ↦
    (value, text.length - rest.length))

/-! ### A whole text that spells an integer -/

/-- The digits of a text in which digits are separated by at most one underscore. `expected` says
that a digit has to come next. -/
def groupedDigits (expected : Bool) : List Char → Option (List Nat)
  | [] => if expected then none else some []
  | c :: rest =>
    match digitValue? c with
    | some digit => (groupedDigits false rest).map (digit :: ·)
    | none => if c = '_' && !expected then groupedDigits true rest else none

/-- The integer spelled by a whole text: `none` when the text is no spelling of one or has too
many digits. -/
def parseInteger (text : List Char) : Option Int :=
  let (negative, body) := splitSign (stripSpace text)
  (groupedDigits true body).bind (fun digits ↦ (signed negative digits).toOption)

end DeskAssistant.Text
