import DeskAssistant.Text.Integer
import Mathlib.Data.List.TakeWhile
import Mathlib.Data.Nat.Digits.Defs
import Mathlib.Tactic.Common

/-!
# Spellings of integers

An integer fills a whole text when it is written with digits of any script, with a sign in front of
them or none, and with space on both sides. Two digits may have one underscore between them
(`Grouped`). `Spelling` is such a text by its parts, and `Text.parseInteger` reads exactly the texts
of spellings, each to the integer that its digits denote (`parseInteger_eq_some_iff`).
-/

set_option autoImplicit false
set_option relaxedAutoImplicit false

namespace DeskAssistant.Text

/-! ### Space at the two ends -/

theorem stripSpace_append {front core back : List Char} (hfront : ∀ c ∈ front, isSpace c = true)
    (hcore : ∀ c ∈ core, isSpace c = false) (hback : ∀ c ∈ back, isSpace c = true) :
    stripSpace (front ++ core ++ back) = core := by
  have hplain {text : List Char} (htext : ∀ c ∈ text, isSpace c = false) :
      text.dropWhile isSpace = text := by
    cases text with
    | nil => rfl
    | cons c rest => rw [List.dropWhile_cons_of_neg (by simp [htext])]
  have hleft : (front ++ core ++ back).dropWhile isSpace = (core ++ back).dropWhile isSpace := by
    rw [List.append_assoc, List.dropWhile_append_of_pos hfront]
  have hback' : ∀ c ∈ back.reverse, isSpace c = true := by simpa using hback
  have hcore' : ∀ c ∈ core.reverse, isSpace c = false := by simpa using hcore
  unfold stripSpace
  rw [hleft]
  cases core with
  | nil =>
    have hnothing : back.dropWhile isSpace = [] := List.dropWhile_eq_nil_iff.mpr hback
    simp [hnothing]
  | cons c rest =>
    rw [List.cons_append, List.dropWhile_cons_of_neg (by simp [hcore]), ← List.cons_append,
      List.reverse_append, List.dropWhile_append_of_pos hback', hplain hcore', List.reverse_reverse]

theorem exists_append_stripSpace (text : List Char) :
    ∃ front back, text = front ++ stripSpace text ++ back ∧ (∀ c ∈ front, isSpace c = true) ∧
      ∀ c ∈ back, isSpace c = true := by
  have hspace {c : Char} {line : List Char} (hc : c ∈ line.takeWhile isSpace) :
      isSpace c = true := List.mem_takeWhile_imp hc
  refine ⟨text.takeWhile isSpace, ((text.dropWhile isSpace).reverse.takeWhile isSpace).reverse,
    ?_, fun c hc ↦ hspace hc, fun c hc ↦ hspace (List.mem_reverse.mp hc)⟩
  rw [List.append_assoc, stripSpace, ← List.reverse_append, List.takeWhile_append_dropWhile,
    List.reverse_reverse, List.takeWhile_append_dropWhile]

/-! ### Digits of any script -/

theorem isSpace_eq_false_of_digitValue? {c : Char} {digit : Nat} (h : digitValue? c = some digit) :
    isSpace c = false := by
  have htable : ∀ first ∈ zeros, (0x20 < first ∧ first + 10 ≤ 0x85) ∨
      (0xa0 < first ∧ first + 10 ≤ 0x1680) ∨ (0x1680 < first ∧ first + 10 ≤ 0x2000) ∨
        0x3000 < first := by decide
  unfold digitValue? at h
  obtain ⟨first, hfirst, -⟩ := Option.map_eq_some_iff.mp h
  have hrange := List.find?_some hfirst
  simp only [Bool.and_eq_true, decide_eq_true_eq] at hrange
  have hplace := htable first (List.mem_of_find?_eq_some hfirst)
  simp only [isSpace, Bool.or_eq_false_iff, Bool.and_eq_false_iff, decide_eq_false_iff_not,
    beq_eq_false_iff_ne]
  omega

/-- Digits and their values. Two digits may have an underscore between them. -/
inductive Grouped : List Char → List Nat → Prop where
  | single {c : Char} {digit : Nat} (hdigit : digitValue? c = some digit) : Grouped [c] [digit]
  | adjacent {c : Char} {digit : Nat} {rest : List Char} {digits : List Nat}
      (hdigit : digitValue? c = some digit) (hrest : Grouped rest digits) :
      Grouped (c :: rest) (digit :: digits)
  | apart {c : Char} {digit : Nat} {rest : List Char} {digits : List Nat}
      (hdigit : digitValue? c = some digit) (hrest : Grouped rest digits) :
      Grouped (c :: '_' :: rest) (digit :: digits)

/-- What can stand behind a digit: nothing, or further digits with an underscore in front of them
or none. -/
def BehindDigit (text : List Char) (digits : List Nat) : Prop :=
  (text = [] ∧ digits = []) ∨ Grouped text digits ∨ ∃ rest, text = '_' :: rest ∧ Grouped rest digits

section Grouped

variable {text : List Char} {digits : List Nat}

theorem Grouped.exists_cons (h : Grouped text digits) :
    ∃ c digit rest, text = c :: rest ∧ digitValue? c = some digit := by
  cases h with
  | single hdigit => exact ⟨_, _, _, rfl, hdigit⟩
  | adjacent hdigit _ => exact ⟨_, _, _, rfl, hdigit⟩
  | apart hdigit _ => exact ⟨_, _, _, rfl, hdigit⟩

theorem grouped_cons_iff {c : Char} : Grouped (c :: text) digits ↔
    ∃ digit others, digitValue? c = some digit ∧ digits = digit :: others ∧
      BehindDigit text others := by
  constructor
  · intro h
    cases h with
    | single hdigit => exact ⟨_, _, hdigit, rfl, .inl ⟨rfl, rfl⟩⟩
    | adjacent hdigit hrest => exact ⟨_, _, hdigit, rfl, .inr (.inl hrest)⟩
    | apart hdigit hrest => exact ⟨_, _, hdigit, rfl, .inr (.inr ⟨_, rfl, hrest⟩)⟩
  · rintro ⟨digit, others, hdigit, rfl, ⟨rfl, rfl⟩ | hrest | ⟨rest, rfl, hrest⟩⟩
    · exact .single hdigit
    · exact .adjacent hdigit hrest
    · exact .apart hdigit hrest

theorem Grouped.isSpace_eq_false (h : Grouped text digits) : ∀ c ∈ text, isSpace c = false := by
  induction h with
  | single hdigit => simpa using isSpace_eq_false_of_digitValue? hdigit
  | adjacent hdigit _ ih =>
    exact List.forall_mem_cons.mpr ⟨isSpace_eq_false_of_digitValue? hdigit, ih⟩
  | apart hdigit _ ih =>
    exact List.forall_mem_cons.mpr ⟨isSpace_eq_false_of_digitValue? hdigit,
      List.forall_mem_cons.mpr ⟨rfl, ih⟩⟩

theorem groupedDigits_cons_of_digit {c : Char} {digit : Nat} (hdigit : digitValue? c = some digit)
    (expected : Bool) :
    groupedDigits expected (c :: text) = (groupedDigits false text).map (digit :: ·) := by
  rw [groupedDigits, hdigit]

/-- The two states of the reader are taken together, since each digit leads to the second and each
underscore back to the first. -/
theorem groupedDigits_eq_some_iff (text : List Char) :
    (∀ digits, groupedDigits true text = some digits ↔ Grouped text digits) ∧
      ∀ digits, groupedDigits false text = some digits ↔ BehindDigit text digits := by
  induction text with
  | nil =>
    refine ⟨fun digits ↦ iff_of_false nofun nofun, fun digits ↦ ?_⟩
    constructor
    · rintro ⟨⟩
      exact .inl ⟨rfl, rfl⟩
    · rintro (⟨-, rfl⟩ | hrest | ⟨rest, hrest, -⟩)
      · rfl
      · cases hrest
      · cases hrest
  | cons c text ih =>
    obtain ⟨hexpected, hbehind⟩ := ih
    cases hvalue : digitValue? c with
    | none =>
      have hnone : ∀ digits, ¬ Grouped (c :: text) digits := by
        intro digits h
        obtain ⟨_, _, hdigit, -⟩ := grouped_cons_iff.mp h
        cases hvalue.symm.trans hdigit
      refine ⟨fun digits ↦ iff_of_false ?_ (hnone digits), fun digits ↦ ?_⟩
      · simp [groupedDigits, hvalue]
      · by_cases hunderscore : c = '_'
        · subst hunderscore
          rw [groupedDigits, hvalue]
          simp [BehindDigit, hnone, hexpected]
        · refine iff_of_false (by simp [groupedDigits, hvalue, hunderscore]) ?_
          rintro (⟨h, -⟩ | h | ⟨rest, h, -⟩)
          · cases h
          · exact hnone digits h
          · exact hunderscore (List.cons_eq_cons.mp h).1
    | some digit =>
      have hread (expected : Bool) (digits : List Nat) :
          groupedDigits expected (c :: text) = some digits ↔ Grouped (c :: text) digits := by
        rw [groupedDigits_cons_of_digit hvalue, grouped_cons_iff, Option.map_eq_some_iff]
        simp only [hbehind, hvalue, Option.some.injEq]
        constructor
        · rintro ⟨others, hothers, rfl⟩
          exact ⟨digit, others, rfl, rfl, hothers⟩
        · rintro ⟨_, others, rfl, rfl, hothers⟩
          exact ⟨others, hothers, rfl⟩
      refine ⟨hread true, fun digits ↦ (hread false digits).trans ?_⟩
      constructor
      · exact fun h ↦ .inr (.inl h)
      · rintro (⟨h, -⟩ | h | ⟨rest, h, -⟩)
        · cases h
        · exact h
        · obtain ⟨rfl, -⟩ := List.cons_eq_cons.mp h
          cases hvalue

end Grouped

theorem valueOnto_eq_ofDigits (digits : List Nat) :
    valueOnto 0 digits = Nat.ofDigits 10 digits.reverse := by
  rw [valueOnto, Nat.ofDigits_eq_foldr, List.foldr_reverse]
  congr
  funext value digit
  simp only [Nat.cast_id]
  omega

/-! ### Signs -/

inductive Sign where
  | absent
  | plus
  | minus
  deriving Repr, DecidableEq

namespace Sign

def text : Sign → List Char
  | absent => []
  | plus => ['+']
  | minus => ['-']

/-- The integer of this sign and magnitude. -/
def apply : Sign → Nat → Int
  | absent, magnitude | plus, magnitude => magnitude
  | minus, magnitude => -magnitude

theorem isSpace_eq_false (sign : Sign) : ∀ c ∈ sign.text, isSpace c = false := by
  cases sign with
  | absent => exact nofun
  | plus => exact List.forall_mem_singleton.mpr (by decide)
  | minus => exact List.forall_mem_singleton.mpr (by decide)

end Sign

/-- A sign stands in front of a digit, so no character of the digits is taken for one. -/
theorem splitSign_append (sign : Sign) {text : List Char} {digits : List Nat}
    (h : Grouped text digits) :
    splitSign (sign.text ++ text) = (decide (sign = .minus), text) := by
  cases sign with
  | plus => rfl
  | minus => rfl
  | absent =>
    obtain ⟨c, digit, rest, rfl, hdigit⟩ := h.exists_cons
    have hminus : c ≠ '-' := by
      rintro rfl
      cases (show digitValue? '-' = none by decide).symm.trans hdigit
    have hplus : c ≠ '+' := by
      rintro rfl
      cases (show digitValue? '+' = none by decide).symm.trans hdigit
    exact splitSign_cons_of_ne hminus hplus rest

theorem exists_sign_splitSign (text : List Char) :
    ∃ sign : Sign, text = sign.text ++ (splitSign text).2 ∧
      (splitSign text).1 = decide (sign = .minus) := by
  unfold splitSign
  split
  · exact ⟨.minus, rfl, rfl⟩
  · exact ⟨.plus, rfl, rfl⟩
  · exact ⟨.absent, rfl, rfl⟩

theorem signed_eq_ok_iff {sign : Sign} {digits : List Nat} {value : Int} :
    signed (decide (sign = .minus)) digits = .ok value ↔
      digits.length ≤ 4300 ∧ sign.apply (Nat.ofDigits 10 digits.reverse) = value := by
  unfold signed
  rw [valueOnto_eq_ofDigits]
  by_cases hlong : digitLimit < digits.length
  · rw [if_pos hlong]
    exact iff_of_false nofun fun h ↦ absurd h.1 (Nat.not_le.mpr hlong)
  · have hshort : digits.length ≤ 4300 := Nat.not_lt.mp hlong
    rw [if_neg hlong, and_iff_right hshort, Except.ok.injEq]
    cases sign <;> rfl

/-! ### Whole texts -/

/-- A text that spells an integer, by its parts. -/
structure Spelling where
  front : List Char := []
  sign : Sign := .absent
  body : List Char
  digits : List Nat
  back : List Char := []
  isSpace_front : ∀ c ∈ front, isSpace c = true
  isSpace_back : ∀ c ∈ back, isSpace c = true
  grouped : Grouped body digits
  length_digits_le : digits.length ≤ 4300

namespace Spelling

def text (spelling : Spelling) : List Char :=
  spelling.front ++ (spelling.sign.text ++ spelling.body) ++ spelling.back

/-- The integer that the digits denote, the most significant first. -/
def value (spelling : Spelling) : Int :=
  spelling.sign.apply (Nat.ofDigits 10 spelling.digits.reverse)

theorem stripSpace_text (spelling : Spelling) :
    stripSpace spelling.text = spelling.sign.text ++ spelling.body :=
  stripSpace_append spelling.isSpace_front
    (List.forall_mem_append.mpr
      ⟨spelling.sign.isSpace_eq_false, spelling.grouped.isSpace_eq_false⟩)
    spelling.isSpace_back

theorem parseInteger_text (spelling : Spelling) :
    parseInteger spelling.text = some spelling.value := by
  have hdigits := ((groupedDigits_eq_some_iff spelling.body).1 _).mpr spelling.grouped
  have hsigned : signed (decide (spelling.sign = .minus)) spelling.digits = .ok spelling.value :=
    signed_eq_ok_iff.mpr ⟨spelling.length_digits_le, rfl⟩
  simp only [parseInteger, stripSpace_text, splitSign_append _ spelling.grouped, hdigits,
    Option.bind_some, hsigned]
  rfl

end Spelling

/-- An integer is read from a text exactly when the text spells it. -/
theorem parseInteger_eq_some_iff {text : List Char} {value : Int} :
    parseInteger text = some value ↔
      ∃ spelling : Spelling, spelling.text = text ∧ spelling.value = value := by
  constructor
  · intro hparse
    obtain ⟨front, back, htext, hfront, hback⟩ := exists_append_stripSpace text
    obtain ⟨sign, hsplit, hminus⟩ := exists_sign_splitSign (stripSpace text)
    obtain ⟨digits, hdigits, hvalue⟩ : ∃ digits,
        groupedDigits true (splitSign (stripSpace text)).2 = some digits ∧
          (signed (splitSign (stripSpace text)).1 digits).toOption = some value :=
      Option.bind_eq_some_iff.mp hparse
    rw [hminus] at hvalue
    have hsigned : signed (decide (sign = .minus)) digits = .ok value := by
      cases houtcome : signed (decide (sign = .minus)) digits with
      | ok read =>
        rw [houtcome] at hvalue
        exact congrArg Except.ok (Option.some.inj hvalue)
      | error fault =>
        rw [houtcome] at hvalue
        cases hvalue
    obtain ⟨hlength, hvalue⟩ := signed_eq_ok_iff.mp hsigned
    refine ⟨{
      front, sign, back, digits
      body := (splitSign (stripSpace text)).2
      isSpace_front := hfront
      isSpace_back := hback
      grouped := ((groupedDigits_eq_some_iff _).1 _).mp hdigits
      length_digits_le := hlength }, ?_, hvalue⟩
    rw [Spelling.text, ← hsplit, ← htext]
  · rintro ⟨spelling, rfl, rfl⟩
    exact spelling.parseInteger_text

end DeskAssistant.Text
