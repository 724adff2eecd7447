import DeskAssistant.Fragment.Literal
import DeskAssistant.Json.Value
import DeskAssistant.Text.Integer

/-!
# Tokens of a JSON document

A document is read as tokens with blanks between them. Whole numbers are kept as digits and are
converted when they are used as a value; besides the literals of the standard, `NaN`, `Infinity`
and `-Infinity` are read. `tokens` ends with a malformed token where no token can be read.
-/

set_option autoImplicit false
set_option relaxedAutoImplicit false

namespace DeskAssistant.Json

inductive Token where
  | arrayOpen
  | arrayClose
  | objectOpen
  | objectClose
  | comma
  | colon
  | text (units : List Text.CodeUnit)
  | whole (negative : Bool) (digits : List Nat)
  | literal (value : Value)
  | malformed
  deriving Repr

/-- No token can follow. -/
def Token.isMalformed : Token → Bool
  | malformed => true
  | _ => false

namespace Scan

def punctuation? : Char → Option Token
  | '[' => some .arrayOpen
  | ']' => some .arrayClose
  | '\x7b' => some .objectOpen
  | '\x7d' => some .objectClose
  | ',' => some .comma
  | ':' => some .colon
  | _ => none

/-! ### Texts -/

/-- The characters that stand behind a backslash for another one. -/
def shortEscapes : List (Char × Char) :=
  [('"', '"'), ('\\', '\\'), ('/', '/'), ('b', '\x08'), ('f', '\x0c'), ('n', '\n'), ('r', '\r'),
    ('t', '\t')]

/-- The unit written by an escape, given what follows the backslash, and the rest. -/
def escaped? : List Char → Option (Text.CodeUnit × List Char)
  | [] => none
  | letter :: rest =>
    if letter = 'u' then
      (Fragment.Literal.hexCode? rest).map (fun (code, rest) ↦ (code.toUInt16, rest))
    else (shortEscapes.lookup letter).map (fun c ↦ (c.toNat.toUInt16, rest))

theorem length_escaped? {text rest : List Char} {unit : Text.CodeUnit}
    (h : escaped? text = some (unit, rest)) : rest.length < text.length := by
  unfold escaped? at h
  split at h
  · simp at h
  · split at h
    · simp only [Option.map_eq_some_iff, Prod.exists, Prod.mk.injEq] at h
      obtain ⟨code, after, read, _, rfl⟩ := h
      have := Fragment.Literal.length_hexCode? _ _ _ read
      simp only [List.length_cons]
      omega
    · simp only [Option.map_eq_some_iff, Prod.mk.injEq] at h
      obtain ⟨_, _, _, rfl⟩ := h
      simp

/-- The units of a text behind its opening quote, and what follows the closing one. The units so
far stand backwards in `units`. A control character has to be escaped. -/
def textBody (units : List Text.CodeUnit) : List Char → Option (List Text.CodeUnit × List Char)
  | [] => none
  | c :: rest =>
    if c = '"' then some (units.reverse, rest)
    else if c = '\\' then
      match _read : escaped? rest with
      | none => none
      | some (unit, after) => textBody (unit :: units) after
    else if c.toNat < 0x20 then none
    else textBody ((Text.charUnits c).reverse ++ units) rest
  termination_by text => text.length
  decreasing_by
    · have := length_escaped? _read
      simp only [List.length_cons]
      omega
    · simp only [List.length_cons]
      omega

theorem length_textBody {text rest : List Char} {units value : List Text.CodeUnit}
    (h : textBody units text = some (value, rest)) : rest.length < text.length := by
  fun_induction textBody units text with
  | case1 => simp at h
  | case2 units rest => simp_all
  | case3 => simp at h
  | case4 units rest unit after read _ ih =>
    have := length_escaped? read
    have := ih h
    simp only [List.length_cons]
    omega
  | case5 => simp at h
  | case6 units c rest _ _ _ ih =>
    have := ih h
    simp only [List.length_cons]
    omega

/-! ### Numbers -/

def isDigit (c : Char) : Bool := (Text.asciiDigitValue? c).isSome

/-- The digits at the beginning of a text, and the rest. -/
def digits (text : List Char) : List Nat × List Char :=
  ((text.takeWhile isDigit).filterMap Text.asciiDigitValue?, text.dropWhile isDigit)

/-- The whole part of a number that begins with the digit `c`, and the rest; a zero stands
alone. -/
def wholePart (c : Char) (rest : List Char) : List Nat × List Char :=
  if c = '0' then ([0], rest)
  else ((Text.asciiDigitValue? c).toList ++ (digits rest).1, (digits rest).2)

/-- The digits behind a point, and the rest; a point without digits is left. -/
def places (text : List Char) : List Nat × List Char :=
  match text with
  | '.' :: rest => if (digits rest).1.isEmpty then ([], text) else digits rest
  | _ => ([], text)

/-- The number that digits write, or one that is larger than any document is long when there are
many of them. -/
def boundedValue (digits : List Nat) : Nat :=
  if (digits.dropWhile (· = 0)).length ≤ 18 then Text.valueOnto 0 digits else Nat.pow 10 18

/-- The power of ten behind an exponent mark, and the rest; a mark without digits is left. -/
def power? (text : List Char) : Option Int × List Char :=
  match text with
  | [] => (none, text)
  | mark :: rest =>
    let (negative, body) := Text.splitSign rest
    let value : Int := boundedValue (digits body).1
    if (mark = 'e' || mark = 'E') && !(digits body).1.isEmpty then
      (some (if negative then -value else value), (digits body).2)
    else (none, text)

/-- The number that begins with the digit `c`, and the rest. -/
def number (negative : Bool) (c : Char) (rest : List Char) : Token × List Char :=
  let (whole, afterWhole) := wholePart c rest
  let (fraction, afterFraction) := places afterWhole
  let (power, after) := power? afterFraction
  if fraction.isEmpty && power.isNone then (.whole negative whole, after)
  else
    (.literal (.real (.ofDigits negative (whole ++ fraction) (power.getD 0 - fraction.length))),
      after)

theorem length_dropWhile_le {α : Type} (p : α → Bool) (items : List α) :
    (items.dropWhile p).length ≤ items.length :=
  (List.dropWhile_suffix p).length_le

theorem length_digits_le (text : List Char) : (digits text).2.length ≤ text.length :=
  length_dropWhile_le _ _

theorem length_wholePart_le (c : Char) (rest : List Char) :
    (wholePart c rest).2.length ≤ rest.length := by
  unfold wholePart
  split
  · exact Nat.le_refl _
  · exact length_digits_le rest

theorem length_places_le (text : List Char) : (places text).2.length ≤ text.length := by
  unfold places
  split
  · rename_i rest
    have := length_digits_le rest
    split
    · exact Nat.le_refl _
    · simp only [List.length_cons]
      omega
  · exact Nat.le_refl _

theorem length_splitSign_le (text : List Char) :
    (Text.splitSign text).2.length ≤ text.length := by
  unfold Text.splitSign
  split <;> simp

theorem length_power?_le (text : List Char) : (power? text).2.length ≤ text.length := by
  unfold power?
  split
  · exact Nat.le_refl _
  · rename_i mark rest
    have := length_splitSign_le rest
    have := length_digits_le (Text.splitSign rest).2
    dsimp only
    split
    · simp only [List.length_cons]
      omega
    · exact Nat.le_refl _

theorem length_number_le (negative : Bool) (c : Char) (rest : List Char) :
    (number negative c rest).2.length ≤ rest.length := by
  have := length_wholePart_le c rest
  have := length_places_le (wholePart c rest).2
  have := length_power?_le (places (wholePart c rest).2).2
  unfold number
  dsimp only
  split <;> dsimp only <;> omega

/-! ### All tokens -/

/-- The values that are written as a word. -/
def words : List (List Char × Value) :=
  [("null".toList, .null), ("true".toList, .truth true), ("false".toList, .truth false),
    ("NaN".toList, .real .notANumber), ("Infinity".toList, .real (.infinite false)),
    ("-Infinity".toList, .real (.infinite true))]

/-- The token that begins with `c`, and the rest. -/
def next (c : Char) (rest : List Char) : Token × List Char :=
  match punctuation? c with
  | some token => (token, rest)
  | none =>
    if c = '"' then
      match textBody [] rest with
      | some (units, after) => (.text units, after)
      | none => (.malformed, rest)
    else
      match words.find? (fun word ↦ word.1.isPrefixOf (c :: rest)), rest with
      | some (word, value), _ => (.literal value, rest.drop (word.length - 1))
      | none, digit :: after =>
        if c = '-' && isDigit digit then number true digit after
        else if isDigit c then number false c rest
        else (.malformed, rest)
      | none, [] => if isDigit c then number false c rest else (.malformed, rest)

theorem length_next_le (c : Char) (rest : List Char) :
    (next c rest).2.length ≤ rest.length := by
  unfold next
  split
  · exact Nat.le_refl _
  · split
    · split
      · rename_i read
        have := length_textBody read
        dsimp only
        omega
      · exact Nat.le_refl _
    · split
      · simp
      · rename_i digit after _
        split
        · have := length_number_le true digit after
          simp only [List.length_cons]
          omega
        · split
          · exact length_number_le false c _
          · exact Nat.le_refl _
      · split
        · exact length_number_le false c _
        · exact Nat.le_refl _

/-- A blank between tokens. -/
def isBlank (c : Char) : Bool := c = ' ' || c = '\t' || c = '\n' || c = '\r'

theorem length_after_next_lt {document rest : List Char} {c : Char}
    (h : document.dropWhile isBlank = c :: rest) : (next c rest).2.length < document.length := by
  have hskipped := length_dropWhile_le isBlank document
  have hnext := length_next_le c rest
  rw [h, List.length_cons] at hskipped
  omega

/-- The tokens of a document, through the first malformed one. -/
def tokens (document : List Char) : List Token :=
  match _skipped : document.dropWhile isBlank with
  | [] => []
  | c :: rest =>
    (next c rest).1 :: (if (next c rest).1.isMalformed then [] else tokens (next c rest).2)
  termination_by document.length
  decreasing_by exact length_after_next_lt _skipped

end Scan

end DeskAssistant.Json
