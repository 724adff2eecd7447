import DeskAssistant.Json.Token
import DeskAssistant.Proofs.Text.CodeUnit

/-!
# JSON documents as they are written

The concrete syntax of RFC 8259: a document is a tree that keeps every choice its writer made, the
space between tokens, the spelling of each character of a string, and the order of members. `text`
writes a tree down. `units` is what a string means, a sequence of code units, and `decoded` what a
fragment reader makes of it, which agrees with the meaning up to U+00FF. `Node.entries` lists all
members of a document, however deep, in the order in which they are written.
-/

set_option autoImplicit false
set_option relaxedAutoImplicit false

namespace DeskAssistant.Json.Document

/-! ### Space -/

def isGap (c : Char) : Bool := c = ' ' || c = '\t' || c = '\n' || c = '\r'

/-- Space between two tokens. -/
structure Gap where
  text : List Char
  isGap_of_mem : ∀ c ∈ text, isGap c = true

def Gap.empty : Gap := ⟨[], by simp⟩

/-! ### Strings -/

/-- A hexadecimal digit in either case. -/
structure HexDigit where
  char : Char
  value : Nat
  value_eq : Fragment.Literal.hexValue? char = some value

theorem HexDigit.char_ne (digit : HexDigit) : digit.char ≠ '"' ∧ digit.char ≠ '\\' := by
  obtain ⟨c, value, hvalue⟩ := digit
  constructor <;> rintro rfl <;> cases hvalue

/-- One character between quotes, as it is, behind a backslash, or by its code. -/
inductive Piece where
  | plain (c : Char) (hcontrol : 0x20 ≤ c.toNat) (hquote : c ≠ '"') (hbackslash : c ≠ '\\')
  | short (letter c : Char) (hescape : (letter, c) ∈ Scan.shortEscapes)
  | code (first second third fourth : HexDigit)

namespace Piece

/-- The code that four digits write. -/
def codeOf (first second third fourth : HexDigit) : Nat :=
  ((first.value * 16 + second.value) * 16 + third.value) * 16 + fourth.value

def text : Piece → List Char
  | plain c _ _ _ => [c]
  | short letter _ _ => ['\\', letter]
  | code first second third fourth =>
    ['\\', 'u', first.char, second.char, third.char, fourth.char]

def units : Piece → List Text.CodeUnit
  | plain c _ _ _ => Text.charUnits c
  | short _ c _ => [c.toNat.toUInt16]
  | code first second third fourth => [(codeOf first second third fourth).toUInt16]

/-- A quote behind a backslash. -/
def quote : Piece := short '"' '"' (by decide)

/-- The piece is an escaped quote. -/
def isQuote : Piece → Bool
  | short letter _ _ => letter = '"'
  | _ => false

/-- The character that is read for the piece; a code above U+00FF is a question mark. -/
def decoded : Piece → Char
  | plain c _ _ _ => c
  | short _ c _ => c
  | code first second third fourth =>
    if codeOf first second third fourth ≤ 0xff then Char.ofNat (codeOf first second third fourth)
    else '?'

end Piece

/-- A string as it is spelled, piece by piece. -/
abbrev Spelling := List Piece

namespace Spelling

/-- The text between the quotes. -/
def body (spelling : Spelling) : List Char := spelling.flatMap Piece.text

def text (spelling : Spelling) : List Char := '"' :: (spelling.body ++ ['"'])

def units (spelling : Spelling) : List Text.CodeUnit := spelling.flatMap Piece.units

def decoded (spelling : Spelling) : List Char := spelling.map Piece.decoded

/-- A quote is escaped in the string. -/
def escapesQuote (spelling : Spelling) : Bool := spelling.any Piece.isQuote

@[simp] theorem body_nil : body [] = [] := rfl

@[simp] theorem body_cons (piece : Piece) (pieces : Spelling) :
    body (piece :: pieces) = piece.text ++ pieces.body := rfl

theorem units_cons (piece : Piece) (pieces : Spelling) :
    units (piece :: pieces) = piece.units ++ pieces.units := rfl

@[simp] theorem decoded_cons (piece : Piece) (pieces : Spelling) :
    decoded (piece :: pieces) = piece.decoded :: pieces.decoded := rfl

/-- The characters may stand between quotes as they are. -/
def IsRaw (chars : List Char) : Prop := ∀ c ∈ chars, 0x20 ≤ c.toNat ∧ c ≠ '"' ∧ c ≠ '\\'

instance (chars : List Char) : Decidable (IsRaw chars) := List.decidableBAll _ _

/-- The spelling with nothing escaped. -/
def raw (chars : List Char) (h : IsRaw chars) : Spelling :=
  chars.pmap (fun c hc ↦ .plain c hc.1 hc.2.1 hc.2.2) h

theorem body_raw (chars : List Char) (h : IsRaw chars) : (raw chars h).body = chars := by
  induction chars with
  | nil => rfl
  | cons c chars ih => exact congrArg (c :: ·) (ih fun d hd ↦ h d (List.mem_cons_of_mem _ hd))

end Spelling

/-! ### Numbers and words -/

def digitChar (digit : Fin 10) : Char := Char.ofNat (48 + digit.val)

structure Exponent where
  isUpper : Bool
  /-- The sign, if one is written; a minus is `true`. -/
  sign : Option Bool
  digits : List (Fin 10)
  digits_ne_nil : digits ≠ []

namespace Exponent

def text (exponent : Exponent) : List Char :=
  (if exponent.isUpper then 'E' else 'e') ::
    (exponent.sign.elim [] (fun negative ↦ [if negative then '-' else '+']) ++
      exponent.digits.map digitChar)

end Exponent

structure Numeral where
  isNegative : Bool
  whole : List (Fin 10)
  /-- The digits behind the point; without any there is no point. -/
  fraction : List (Fin 10)
  exponent : Option Exponent
  whole_ne_nil : whole ≠ []
  /-- No zero stands in front of another digit. -/
  length_of_zero : whole.head? = some 0 → whole.length = 1

namespace Numeral

def text (numeral : Numeral) : List Char :=
  (if numeral.isNegative then ['-'] else []) ++ numeral.whole.map digitChar ++
    (if numeral.fraction.isEmpty then [] else '.' :: numeral.fraction.map digitChar) ++
    numeral.exponent.elim [] Exponent.text

/-- The number that the digits in front of the point write. -/
def wholeValue (numeral : Numeral) : Nat :=
  numeral.whole.foldl (fun value digit ↦ value * 10 + digit.val) 0

/-- The integer that is written without point and exponent. -/
def integer? (numeral : Numeral) : Option Int :=
  if numeral.fraction = [] ∧ numeral.exponent.isNone then
    some (if numeral.isNegative then -numeral.wholeValue else numeral.wholeValue)
  else none

theorem text_of_integer? {numeral : Numeral} {value : Int} (h : numeral.integer? = some value) :
    numeral.text =
        (if numeral.isNegative then ['-'] else []) ++ numeral.whole.map digitChar ∧
      (if numeral.isNegative then -(numeral.wholeValue : Int) else numeral.wholeValue) = value := by
  unfold integer? at h
  rw [Option.ite_none_right_eq_some] at h
  obtain ⟨⟨hfraction, hexponent⟩, hvalue⟩ := h
  refine ⟨?_, Option.some.inj hvalue⟩
  simp [text, hfraction, Option.isNone_iff_eq_none.mp hexponent]

end Numeral

inductive Word where
  | truth (value : Bool)
  | null

def Word.text : Word → List Char
  | truth true => "true".toList
  | truth false => "false".toList
  | null => "null".toList

/-! ### Documents -/

mutual

/-- A value as it is written. The gap of an array or an object stands behind its opening bracket,
so that an empty one can have space in it. -/
inductive Node where
  | string (spelling : Spelling)
  | numeral (numeral : Numeral)
  | word (word : Word)
  | array (gap : Gap) (items : Items)
  | object (gap : Gap) (members : Members)

inductive Items where
  | nil
  | cons (before : Gap) (node : Node) (after : Gap) (rest : Items)

inductive Members where
  | nil
  | cons (before : Gap) (key : Spelling) (beforeColon afterColon : Gap) (node : Node) (after : Gap)
      (rest : Members)

end

/-- The comma in front of an item or a member that is not the first one. -/
def separator (isFirst : Bool) : List Char := if isFirst then [] else [',']

mutual

def Node.text : Node → List Char
  | .string spelling => spelling.text
  | .numeral numeral => numeral.text
  | .word word => word.text
  | .array gap items => '[' :: (gap.text ++ (items.text true ++ [']']))
  | .object gap members => '\x7b' :: (gap.text ++ (members.text true ++ ['\x7d']))

def Items.text (isFirst : Bool) : Items → List Char
  | .nil => []
  | .cons before node after rest =>
    separator isFirst ++ (before.text ++ (node.text ++ (after.text ++ rest.text false)))

def Members.text (isFirst : Bool) : Members → List Char
  | .nil => []
  | .cons before key beforeColon afterColon node after rest =>
    separator isFirst ++ (before.text ++ (key.text ++ (beforeColon.text ++
      ':' :: (afterColon.text ++ (node.text ++ (after.text ++ rest.text false))))))

end

/-- The brackets around an array or an object. -/
def Node.brackets? : Node → Option (Char × Char)
  | .array _ _ => some ('[', ']')
  | .object _ _ => some ('\x7b', '\x7d')
  | .string _ | .numeral _ | .word _ => none

def Items.list : Items → List Node
  | .nil => []
  | .cons _ node _ rest => node :: rest.list

def Members.list : Members → List (Spelling × Node)
  | .nil => []
  | .cons _ key _ _ node _ rest => (key, node) :: rest.list

mutual

/-- The members in a document, with their keys, in the order of their first characters. -/
def Node.entries : Node → List (Spelling × Node)
  | .string _ | .numeral _ | .word _ => []
  | .array _ items => items.entries
  | .object _ members => members.entries

def Items.entries : Items → List (Spelling × Node)
  | .nil => []
  | .cons _ node _ rest => node.entries ++ rest.entries

def Members.entries : Members → List (Spelling × Node)
  | .nil => []
  | .cons _ key _ _ node _ rest => (key, node) :: (node.entries ++ rest.entries)

end

/-- The value of the first member whose key is written as `name`. -/
def firstNamed? (name : String) (entries : List (Spelling × Node)) : Option Node :=
  (entries.find? fun entry ↦ entry.1.body = name.toList).map Prod.snd

theorem firstNamed?_append (name : String) (first second : List (Spelling × Node)) :
    firstNamed? name (first ++ second) =
      (firstNamed? name first).or (firstNamed? name second) := by
  rw [firstNamed?, List.find?_append, Option.map_or]
  rfl

/-! ### Characters of a value -/

/-- A character that a number may be written with. -/
def isNumeric (c : Char) : Bool := c.isDigit || c ∈ ['+', '-', '.', 'e', 'E']

theorem isNumeric_digitChar (digit : Fin 10) : isNumeric (digitChar digit) = true := by
  revert digit
  decide

theorem isNumeric_of_mem_digits {digits : List (Fin 10)} {c : Char}
    (h : c ∈ digits.map digitChar) : isNumeric c = true := by
  obtain ⟨digit, _, rfl⟩ := List.mem_map.mp h
  exact isNumeric_digitChar digit

theorem Exponent.isNumeric_of_mem (exponent : Exponent) {c : Char} (h : c ∈ exponent.text) :
    isNumeric c = true := by
  rcases List.mem_cons.mp h with rfl | h
  · cases exponent.isUpper <;> decide
  · rcases List.mem_append.mp h with hsign | hdigits
    · cases hexponent : exponent.sign with
      | none => simp [hexponent] at hsign
      | some negative =>
        simp only [hexponent, Option.elim_some, List.mem_singleton] at hsign
        subst hsign
        cases negative <;> decide
    · exact isNumeric_of_mem_digits hdigits

theorem Numeral.isNumeric_of_mem (numeral : Numeral) {c : Char} (h : c ∈ numeral.text) :
    isNumeric c = true := by
  rcases List.mem_append.mp h with h | hexponent
  · rcases List.mem_append.mp h with h | hfraction
    · rcases List.mem_append.mp h with hsign | hwhole
      · split_ifs at hsign
        · rw [List.mem_singleton.mp hsign]
          decide
        · cases hsign
      · exact isNumeric_of_mem_digits hwhole
    · split_ifs at hfraction
      · cases hfraction
      · rcases List.mem_cons.mp hfraction with rfl | hdigits
        · decide
        · exact isNumeric_of_mem_digits hdigits
  · cases hpower : numeral.exponent with
    | none => simp [hpower] at hexponent
    | some exponent =>
      rw [hpower] at hexponent
      exact exponent.isNumeric_of_mem hexponent

theorem Numeral.text_ne_nil (numeral : Numeral) : numeral.text ≠ [] := by
  have hwhole := numeral.whole_ne_nil
  simp [Numeral.text, hwhole]

/-- The first character of a value. -/
theorem Node.exists_text_eq_cons (node : Node) :
    ∃ c rest, node.text = c :: rest ∧ Text.isBlank c = false := by
  cases node with
  | string spelling => exact ⟨_, _, rfl, by decide⟩
  | numeral numeral =>
    cases htext : numeral.text with
    | nil => exact absurd htext numeral.text_ne_nil
    | cons c rest =>
      refine ⟨c, rest, htext, ?_⟩
      have hnumeric := numeral.isNumeric_of_mem (htext ▸ List.mem_cons_self)
      by_contra hblank
      rw [Bool.not_eq_false, Text.isBlank] at hblank
      simp only [Bool.or_eq_true, beq_iff_eq] at hblank
      rcases hblank with ((((rfl | rfl) | rfl) | rfl) | rfl) | rfl <;>
        exact absurd hnumeric (by decide)
  | word word =>
    rcases word with (_ | _) | _ <;> exact ⟨_, _, rfl, by decide⟩
  | array gap items => exact ⟨_, _, rfl, by decide⟩
  | object gap members => exact ⟨_, _, rfl, by decide⟩

/-! ### What a string means -/

theorem HexDigit.value_lt (digit : HexDigit) : digit.value < 16 := by
  obtain ⟨c, value, hvalue⟩ := digit
  have hrange {high : Char} {n : Nat} (h : c ≤ high) (hhigh : high.toNat ≤ n) : c.toNat ≤ n :=
    Nat.le_trans (show c.toNat ≤ high.toNat from h) hhigh
  unfold Fragment.Literal.hexValue? at hvalue
  split_ifs at hvalue with hdigit hlower hupper
  · have := hrange hdigit.2 (show '9'.toNat ≤ 57 by decide)
    cases hvalue
    dsimp only
    omega
  · have := hrange hlower.2 (show 'f'.toNat ≤ 102 by decide)
    cases hvalue
    dsimp only
    omega
  · have := hrange hupper.2 (show 'F'.toNat ≤ 70 by decide)
    cases hvalue
    dsimp only
    omega

theorem Piece.codeOf_lt (first second third fourth : HexDigit) :
    codeOf first second third fourth < 0x10000 := by
  have h1 := first.value_lt
  have h2 := second.value_lt
  have h3 := third.value_lt
  have h4 := fourth.value_lt
  unfold codeOf
  omega

/-- The piece stands for one character up to U+00FF, or for a character as it is. -/
def Piece.isExact : Piece → Bool
  | code first second third fourth => codeOf first second third fourth ≤ 0xff
  | _ => true

theorem Piece.units_eq {piece : Piece} (h : piece.isExact = true) :
    piece.units = Text.charUnits piece.decoded := by
  cases piece with
  | plain c _ _ _ => rfl
  | short letter c hescape =>
    have hall : ∀ pair ∈ Scan.shortEscapes,
        Text.charUnits pair.2 = [pair.2.toNat.toUInt16] := by decide
    exact (hall _ hescape).symm
  | code first second third fourth =>
    have hcode : codeOf first second third fourth ≤ 0xff := by simpa [isExact] using h
    rw [units, decoded, if_pos hcode, Text.charUnits]
    generalize codeOf first second third fourth = code at hcode
    have hvalid : code.isValidChar := Or.inl (by omega)
    have hnat : (Char.ofNat code).toNat = code := by
      rw [Char.ofNat, dif_pos hvalid]
      rfl
    simp only [hnat]
    rw [if_pos (by omega)]

theorem Piece.units_ne_nil (piece : Piece) : piece.units ≠ [] := by
  cases piece with
  | plain c _ _ _ => exact Text.charUnits_ne_nil c
  | short _ _ _ | code _ _ _ _ => exact List.cons_ne_nil _ _

namespace Spelling

theorem codeUnits_decoded {spelling : Spelling}
    (h : ∀ piece ∈ spelling, piece.isExact = true) :
    Text.codeUnits (String.ofList spelling.decoded) = spelling.units := by
  rw [Text.codeUnits, String.toList_ofList]
  induction spelling with
  | nil => rfl
  | cons piece pieces ih =>
    have hpieces := ih fun other hother ↦ h other (List.mem_cons_of_mem _ hother)
    rw [decoded_cons, List.flatMap_cons, hpieces, ← Piece.units_eq (h piece List.mem_cons_self)]
    rfl

/-- A string is read as what it means if no code above U+00FF is escaped in it. -/
theorem ofList_decoded_eq {spelling : Spelling} (h : ∀ piece ∈ spelling, piece.isExact = true)
    {string : String} (hunits : spelling.units = Text.codeUnits string) :
    String.ofList spelling.decoded = string :=
  Text.codeUnits_injective ((codeUnits_decoded h).trans hunits)

/-- The string is of ASCII characters other than the question mark. -/
def IsUnmistakable (string : String) : Prop := ∀ c ∈ string.toList, c.toNat < 0x80 ∧ c ≠ '?'

instance (string : String) : Decidable (IsUnmistakable string) := List.decidableBAll _ _

/-- It makes no difference whether a string is compared with such a one by its meaning or as it is
read. -/
theorem ofList_decoded_eq_iff (spelling : Spelling) {string : String}
    (hstring : IsUnmistakable string) :
    String.ofList spelling.decoded = string ↔ spelling.units = Text.codeUnits string := by
  constructor
  · rintro rfl
    rw [IsUnmistakable, String.toList_ofList] at hstring
    refine (codeUnits_decoded fun piece hpiece ↦ ?_).symm
    have hdecoded := (hstring piece.decoded (List.mem_map_of_mem hpiece)).2
    cases piece with
    | plain _ _ _ _ => rfl
    | short _ _ _ => rfl
    | code first second third fourth =>
      by_contra hexact
      rw [Piece.decoded, if_neg (by simpa [Piece.isExact] using hexact)] at hdecoded
      exact hdecoded rfl
  · intro hunits
    refine ofList_decoded_eq (fun piece hpiece ↦ ?_) hunits
    cases piece with
    | plain _ _ _ _ => rfl
    | short _ _ _ => rfl
    | code first second third fourth =>
      have hunit : (Piece.codeOf first second third fourth).toUInt16 ∈ Text.codeUnits string := by
        rw [← hunits]
        exact List.mem_flatMap.mpr ⟨_, hpiece, List.mem_singleton_self _⟩
      obtain ⟨c, hc, hmem⟩ := List.mem_flatMap.mp hunit
      have hascii := (hstring c hc).1
      rw [Text.charUnits, if_pos (by omega), List.mem_singleton] at hmem
      have hcode := Text.toUInt16_inj (Piece.codeOf_lt first second third fourth) (by omega) hmem
      simp only [Piece.isExact, decide_eq_true_eq]
      omega

end Spelling

end DeskAssistant.Json.Document
