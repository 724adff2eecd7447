import DeskAssistant.Proofs.Text.Spelling
import Mathlib.Data.List.Basic

/-!
# Integers at the beginning of a text

What `Text.readInteger` reads, without the limit on its digits: the maximal run of ASCII digits
behind blanks and at most one sign (`leadingDigits`) and the integer written there, however long it
is (`leadingInteger?`). `readInteger_eq` says that the limit alone comes between the two.

`Delimits` says where such an integer lies in a text: behind blanks, spelled by a sign and digits,
and up to a character that is no digit. A text has one exactly if it has leading digits
(`exists_delimits`), and then reading gives what is spelled there or refuses its length; otherwise
it gives nothing (`isReading_readIntegerAt`).
-/

set_option autoImplicit false
set_option relaxedAutoImplicit false

namespace DeskAssistant.Text

/-- The ASCII digits behind blanks and at most one sign. -/
def leadingDigits (text : List Char) : List Char :=
  (splitSign (skipBlanks text)).2.takeWhile fun c ↦ (asciiDigitValue? c).isSome

/-- What follows these digits. -/
def behindDigits (text : List Char) : List Char :=
  (splitSign (skipBlanks text)).2.dropWhile fun c ↦ (asciiDigitValue? c).isSome

/-- The integer written by these digits, with its sign. -/
def leadingInteger? (text : List Char) : Option Int :=
  if leadingDigits text = [] then none
  else
    let value : Int := valueOnto 0 ((leadingDigits text).filterMap asciiDigitValue?)
    some (if (splitSign (skipBlanks text)).1 then -value else value)

/-- The integer can be converted. -/
def IsShort (text : List Char) : Prop := (leadingDigits text).length ≤ digitLimit

instance (text : List Char) : Decidable (IsShort text) := Nat.decLe _ _

theorem length_filterMap_leadingDigits (text : List Char) :
    ((leadingDigits text).filterMap asciiDigitValue?).length = (leadingDigits text).length := by
  have hdigit : ∀ c ∈ leadingDigits text, (asciiDigitValue? c).isSome = true := by
    intro c hc
    unfold leadingDigits at hc
    simpa using List.mem_takeWhile_imp hc
  exact List.filterMap_length_eq_length.mpr hdigit

theorem readInteger_eq (text : List Char) :
    readInteger text =
      if IsShort text then
        .ok ((leadingInteger? text).map fun value ↦ (value, behindDigits text))
      else .error ⟨(leadingDigits text).length⟩ := by
  have hlength := length_filterMap_leadingDigits text
  have hread : readInteger text =
      if ((leadingDigits text).filterMap asciiDigitValue?).isEmpty then .ok none
      else (signed (splitSign (skipBlanks text)).1
        ((leadingDigits text).filterMap asciiDigitValue?)).map
          fun value ↦ some (value, behindDigits text) := rfl
  rw [hread, signed, hlength]
  by_cases hempty : leadingDigits text = []
  · simp [hempty, leadingInteger?, IsShort]
  · have hdigits : ((leadingDigits text).filterMap asciiDigitValue?).isEmpty = false := by
      rw [List.isEmpty_eq_false_iff, ← List.length_pos_iff, hlength, List.length_pos_iff]
      exact hempty
    rw [hdigits, if_neg Bool.false_ne_true]
    by_cases hshort : IsShort text
    · rw [if_pos hshort, if_neg (Nat.not_lt.mpr hshort), leadingInteger?, if_neg hempty]
      rfl
    · rw [if_neg hshort, if_pos (Nat.lt_of_not_le hshort)]
      rfl

/-! ### Where an integer lies -/

/-- A sign or none, and ASCII digits. -/
structure AsciiSpelling where
  sign : Sign := .absent
  digits : List Char
  digits_ne_nil : digits ≠ []
  isDigit : ∀ c ∈ digits, c.isDigit = true

namespace AsciiSpelling

def text (spelling : AsciiSpelling) : List Char := spelling.sign.text ++ spelling.digits

/-- The integer that the digits denote, the most significant first. -/
def value (spelling : AsciiSpelling) : Int :=
  spelling.sign.apply (Nat.ofDigits 10 (spelling.digits.map (·.toNat - 48)).reverse)

end AsciiSpelling

/-- Behind blanks a text spells an integer, and no further digit comes before the rest. -/
structure Delimits (text blanks : List Char) (spelling : AsciiSpelling) (rest : List Char) :
    Prop where
  text_eq : text = blanks ++ spelling.text ++ rest
  isBlank_of_mem : ∀ c ∈ blanks, isBlank c = true
  isDigit_rest : ∀ c ∈ rest.head?, c.isDigit = false

section Delimits

variable {text blanks rest : List Char} {spelling : AsciiSpelling}

/-- A character that is neither skipped nor taken for a sign. -/
def IsPlain (c : Char) : Prop := isBlank c = false ∧ c ≠ '-' ∧ c ≠ '+'

theorem isPlain_of_le {c : Char} (h : 48 ≤ c.toNat) : IsPlain c := by
  refine ⟨Bool.eq_false_iff.mpr fun hblank ↦ ?_, ?_, ?_⟩
  · simp only [isBlank, Bool.or_eq_true, beq_iff_eq] at hblank
    rcases hblank with ((((rfl | rfl) | rfl) | rfl) | rfl) | rfl <;> exact absurd h (by decide)
  · rintro rfl
    exact absurd h (by decide)
  · rintro rfl
    exact absurd h (by decide)

theorem isPlain_of_isDigit {c : Char} (h : c.isDigit = true) : IsPlain c := by
  refine isPlain_of_le ?_
  rw [Char.isDigit, Bool.and_eq_true, decide_eq_true_eq] at h
  exact h.1

/-- Behind a sign every character is taken as it is. -/
theorem splitSign_skipBlanks_append {sign : Sign} {c : Char}
    (hblanks : ∀ other ∈ blanks, isBlank other = true) (hc : sign = .absent → IsPlain c)
    (rest : List Char) : splitSign (skipBlanks (blanks ++ sign.text ++ c :: rest)) =
      (decide (sign = .minus), c :: rest) := by
  rw [skipBlanks, List.append_assoc, List.dropWhile_append_of_pos hblanks]
  cases sign with
  | plus => rfl
  | minus => rfl
  | absent =>
    obtain ⟨hblank, hminus, hplus⟩ := hc rfl
    change splitSign ((c :: rest).dropWhile isBlank) = (false, c :: rest)
    rw [List.dropWhile_cons_of_neg (by simp [hblank]), splitSign_cons_of_ne hminus hplus]

theorem takeWhile_digits_append {digits : List Char} (hdigits : ∀ c ∈ digits, c.isDigit = true)
    (hrest : ∀ c ∈ rest.head?, c.isDigit = false) :
    (digits ++ rest).takeWhile (fun c ↦ (asciiDigitValue? c).isSome) = digits ∧
      (digits ++ rest).dropWhile (fun c ↦ (asciiDigitValue? c).isSome) = rest := by
  simp only [isSome_asciiDigitValue?]
  rw [List.takeWhile_append_of_pos hdigits, List.dropWhile_append_of_pos hdigits]
  cases rest with
  | nil => simp
  | cons c rest =>
    have hc : c.isDigit = false := hrest c rfl
    simp [hc]

namespace Delimits

theorem splitSign_eq (h : Delimits text blanks spelling rest) :
    splitSign (skipBlanks text) = (decide (spelling.sign = .minus), spelling.digits ++ rest) := by
  obtain ⟨c, digits, hdigits⟩ := List.exists_cons_of_ne_nil spelling.digits_ne_nil
  have hc : c.isDigit = true := spelling.isDigit c (by rw [hdigits]; exact List.mem_cons_self)
  have htext : text = blanks ++ spelling.sign.text ++ c :: (digits ++ rest) := by
    rw [h.text_eq, AsciiSpelling.text, hdigits, ← List.append_assoc, List.append_assoc,
      List.cons_append]
  rw [htext, splitSign_skipBlanks_append h.isBlank_of_mem fun _ ↦ isPlain_of_isDigit hc, hdigits,
    List.cons_append]

theorem leadingDigits_eq (h : Delimits text blanks spelling rest) :
    leadingDigits text = spelling.digits := by
  rw [leadingDigits, h.splitSign_eq]
  exact (takeWhile_digits_append spelling.isDigit h.isDigit_rest).1

theorem behindDigits_eq (h : Delimits text blanks spelling rest) : behindDigits text = rest := by
  rw [behindDigits, h.splitSign_eq]
  exact (takeWhile_digits_append spelling.isDigit h.isDigit_rest).2

theorem leadingInteger?_eq (h : Delimits text blanks spelling rest) :
    leadingInteger? text = some spelling.value := by
  have hvalues : spelling.digits.filterMap asciiDigitValue? =
      spelling.digits.map (·.toNat - 48) :=
    List.filterMap_eq_map_iff_forall_eq_some.mpr fun c hc ↦
      asciiDigitValue?_of_isDigit (spelling.isDigit c hc)
  rw [leadingInteger?, h.leadingDigits_eq, if_neg spelling.digits_ne_nil, h.splitSign_eq, hvalues,
    valueOnto_eq_ofDigits, AsciiSpelling.value]
  cases spelling.sign <;> rfl

end Delimits

/-- Leading digits are those of a spelling. -/
theorem exists_delimits (h : leadingDigits text ≠ []) :
    ∃ blanks spelling rest, Delimits text blanks spelling rest := by
  obtain ⟨sign, hsign, -⟩ := exists_sign_splitSign (skipBlanks text)
  have hdigit : ∀ c ∈ leadingDigits text, c.isDigit = true := by
    intro c hc
    have hvalue : (asciiDigitValue? c).isSome = true := by
      unfold leadingDigits at hc
      simpa using List.mem_takeWhile_imp hc
    rwa [isSome_asciiDigitValue?] at hvalue
  refine ⟨text.takeWhile isBlank, ⟨sign, leadingDigits text, h, hdigit⟩, behindDigits text, ?_,
    fun c hc ↦ List.mem_takeWhile_imp hc, ?_⟩
  · have hbody : leadingDigits text ++ behindDigits text = (splitSign (skipBlanks text)).2 :=
      List.takeWhile_append_dropWhile
    rw [AsciiSpelling.text, List.append_assoc, List.append_assoc, hbody, ← hsign]
    exact List.takeWhile_append_dropWhile.symm
  · intro c hc
    have hstop := List.head?_dropWhile_not (fun c ↦ (asciiDigitValue? c).isSome)
      (splitSign (skipBlanks text)).2
    change (behindDigits text).head? = some c at hc
    rw [← behindDigits, hc] at hstop
    change (asciiDigitValue? c).isSome = false at hstop
    rwa [isSome_asciiDigitValue?] at hstop

/-- Behind blanks and at most one sign there is an ASCII digit. -/
def HasDigit (text : List Char) : Prop :=
  ∃ blanks sign c rest, text = blanks ++ Sign.text sign ++ c :: rest ∧
    (∀ other ∈ blanks, isBlank other = true) ∧ c.isDigit = true

theorem leadingDigits_append {sign : Sign} {c : Char}
    (hblanks : ∀ other ∈ blanks, isBlank other = true) (hc : sign = .absent → IsPlain c)
    (rest : List Char) : leadingDigits (blanks ++ sign.text ++ c :: rest) =
      if c.isDigit then c :: rest.takeWhile Char.isDigit else [] := by
  rw [leadingDigits, splitSign_skipBlanks_append hblanks hc]
  simp only [isSome_asciiDigitValue?]
  exact List.takeWhile_cons

theorem leadingDigits_eq_nil_iff : leadingDigits text = [] ↔ ¬ HasDigit text := by
  constructor
  · rintro hnil ⟨blanks, sign, c, rest, rfl, hblanks, hc⟩
    rw [leadingDigits_append hblanks (fun _ ↦ isPlain_of_isDigit hc), if_pos hc] at hnil
    cases hnil
  · intro hnone
    by_contra hdigits
    obtain ⟨blanks, spelling, rest, h⟩ := exists_delimits hdigits
    obtain ⟨c, digits, hcons⟩ := List.exists_cons_of_ne_nil spelling.digits_ne_nil
    refine hnone ⟨blanks, spelling.sign, c, digits ++ rest, ?_, h.isBlank_of_mem,
      spelling.isDigit c (by rw [hcons]; exact List.mem_cons_self)⟩
    rw [h.text_eq, AsciiSpelling.text, hcons, ← List.append_assoc, List.append_assoc,
      List.cons_append]

end Delimits

/-! ### Reading at a position -/

section Reading

variable {text blanks rest : List Char} {spelling : AsciiSpelling} {position : Nat}

theorem readInteger_of_delimits (h : Delimits text blanks spelling rest) :
    readInteger text =
      if spelling.digits.length ≤ 4300 then .ok (some (spelling.value, rest))
      else .error ⟨spelling.digits.length⟩ := by
  have hshort : IsShort text ↔ spelling.digits.length ≤ 4300 := by
    rw [← h.leadingDigits_eq]
    rfl
  simp only [readInteger_eq, hshort, h.leadingDigits_eq, h.leadingInteger?_eq, h.behindDigits_eq,
    Option.map_some]

theorem readInteger_of_not_hasDigit (h : ¬ HasDigit text) : readInteger text = .ok none := by
  have hnil := leadingDigits_eq_nil_iff.mpr h
  have hshort : IsShort text := by
    rw [IsShort, hnil]
    exact Nat.zero_le _
  rw [readInteger_eq, if_pos hshort, leadingInteger?, if_pos hnil, Option.map_none]

/-- The rest of the text begins where the spelling ends. -/
theorem Delimits.length_sub (h : Delimits (text.drop position) blanks spelling rest) :
    text.length - rest.length = position + blanks.length + spelling.text.length := by
  have hlength := congrArg List.length h.text_eq
  rw [List.length_drop, List.length_append, List.length_append] at hlength
  have hdigits : 0 < spelling.text.length := by
    rw [AsciiSpelling.text, List.length_append]
    exact Nat.add_pos_right _ (List.length_pos_iff.mpr spelling.digits_ne_nil)
  omega

theorem readIntegerAt_of_delimits (h : Delimits (text.drop position) blanks spelling rest) :
    readIntegerAt text position =
      if spelling.digits.length ≤ 4300 then
        .ok (some (spelling.value, position + blanks.length + spelling.text.length))
      else .error ⟨spelling.digits.length⟩ := by
  rw [readIntegerAt, readInteger_of_delimits h, ← h.length_sub]
  split_ifs <;> rfl

theorem readIntegerAt_of_not_hasDigit (h : ¬ HasDigit (text.drop position)) :
    readIntegerAt text position = .ok none := by
  rw [readIntegerAt, readInteger_of_not_hasDigit h]
  rfl

theorem Delimits.drop_length_sub (h : Delimits (text.drop position) blanks spelling rest) :
    text.drop (text.length - rest.length) = rest := by
  have hrest : rest <:+ text := by
    refine List.IsSuffix.trans ?_ (List.drop_suffix position text)
    rw [h.text_eq]
    exact List.suffix_append _ _
  exact (List.suffix_iff_eq_drop.mp hrest).symm

/-- What is read at a position of a text. -/
structure IsReading (text : List Char) (position : Nat)
    (outcome : Except TooManyDigits (Option (Int × Nat))) : Prop where
  /-- A spelling is read up to its last digit, whatever follows it. -/
  of_short : ∀ blanks spelling rest, Delimits (text.drop position) blanks spelling rest →
    spelling.digits.length ≤ 4300 →
      outcome = .ok (some (spelling.value, position + blanks.length + spelling.text.length))
  of_long : ∀ blanks spelling rest, Delimits (text.drop position) blanks spelling rest →
    4300 < spelling.digits.length → outcome = .error ⟨spelling.digits.length⟩
  eq_none_iff : outcome = .ok none ↔ ¬ HasDigit (text.drop position)
  /-- No digit of another script is read. -/
  of_not_ascii : ∀ blanks sign c rest, text.drop position = blanks ++ Sign.text sign ++ c :: rest →
    (∀ other ∈ blanks, isBlank other = true) → 128 ≤ c.toNat → outcome = .ok none
  of_two_signs : ∀ blanks sign other rest,
    text.drop position = blanks ++ Sign.text sign ++ Sign.text other ++ rest →
      (∀ c ∈ blanks, isBlank c = true) → sign ≠ .absent → other ≠ .absent → outcome = .ok none
  /-- Reading ends in the text and in front of no digit. -/
  stop : ∀ value stop, outcome = .ok (some (value, stop)) →
    stop ≤ text.length ∧ ∀ c ∈ text[stop]?, c.isDigit = false

/-- A text with a digit at a position has a spelling there. -/
theorem exists_delimits_of_hasDigit (h : HasDigit text) :
    ∃ blanks spelling rest, Delimits text blanks spelling rest :=
  exists_delimits fun hnil ↦ leadingDigits_eq_nil_iff.mp hnil h

theorem not_hasDigit_append {sign : Sign} {c : Char}
    (hblanks : ∀ other ∈ blanks, isBlank other = true) (hplain : sign = .absent → IsPlain c)
    (hc : c.isDigit = false) (rest : List Char) :
    ¬ HasDigit (blanks ++ sign.text ++ c :: rest) := by
  rw [← leadingDigits_eq_nil_iff, leadingDigits_append hblanks hplain, hc,
    if_neg Bool.false_ne_true]

theorem isReading_readIntegerAt (text : List Char) (position : Nat) :
    IsReading text position (readIntegerAt text position) where
  of_short blanks spelling rest h hshort := by rw [readIntegerAt_of_delimits h, if_pos hshort]
  of_long blanks spelling rest h hlong := by
    rw [readIntegerAt_of_delimits h, if_neg (Nat.not_le.mpr hlong)]
  eq_none_iff := by
    refine ⟨fun hnone hdigit ↦ ?_, readIntegerAt_of_not_hasDigit⟩
    obtain ⟨blanks, spelling, rest, h⟩ := exists_delimits_of_hasDigit hdigit
    rw [readIntegerAt_of_delimits h] at hnone
    split_ifs at hnone
    cases hnone
  of_not_ascii blanks sign c rest htext hblanks hc := by
    refine readIntegerAt_of_not_hasDigit ?_
    have hdigit : c.isDigit = false := by
      rw [Char.isDigit, Bool.and_eq_false_iff, decide_eq_false_iff_not, decide_eq_false_iff_not]
      refine Or.inr fun hle ↦ ?_
      have hnine : c.toNat ≤ 57 := hle
      omega
    rw [htext]
    exact not_hasDigit_append hblanks (fun _ ↦ isPlain_of_le (by omega)) hdigit rest
  of_two_signs blanks sign other rest htext hblanks hsign hother := by
    refine readIntegerAt_of_not_hasDigit ?_
    rw [htext, List.append_assoc]
    cases other with
    | absent => exact absurd rfl hother
    | plus => exact not_hasDigit_append hblanks (fun habsent ↦ absurd habsent hsign) rfl rest
    | minus => exact not_hasDigit_append hblanks (fun habsent ↦ absurd habsent hsign) rfl rest
  stop value stop hread := by
    by_cases hdigit : HasDigit (text.drop position)
    · obtain ⟨blanks, spelling, rest, h⟩ := exists_delimits_of_hasDigit hdigit
      rw [readIntegerAt_of_delimits h, ← h.length_sub] at hread
      split_ifs at hread
      cases hread
      refine ⟨Nat.sub_le _ _, ?_⟩
      rw [← List.head?_drop, h.drop_length_sub]
      exact h.isDigit_rest
    · rw [readIntegerAt_of_not_hasDigit hdigit] at hread
      cases hread

def minusSeven : AsciiSpelling where
  sign := .minus
  digits := ['0', '0', '7']
  digits_ne_nil := by decide
  isDigit := List.all_eq_true.mp rfl

/-- Blanks and zeros stand in front of the digit that counts, and a comma behind it. -/
theorem readIntegerAt_minusSeven : readIntegerAt "x \t-007,8".toList 1 = .ok (some (-7, 7)) := by
  have hdelimits : Delimits ("x \t-007,8".toList.drop 1) [' ', '\t'] minusSeven [',', '8'] := by
    refine ⟨rfl, List.all_eq_true.mp rfl, ?_⟩
    intro c hc
    obtain rfl : ',' = c := Option.some.inj hc
    rfl
  exact (isReading_readIntegerAt _ 1).of_short _ _ _ hdelimits (by decide)

end Reading

end DeskAssistant.Text
