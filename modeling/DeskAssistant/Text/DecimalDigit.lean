/-!
# Decimal digits

The characters of the Unicode general category `Nd` come in runs of ten, from zero to nine, in
ascending order. `zeros` lists the zero of each run, and `digitValue?` reads a digit of any of
them. `asciiDigitValue?` reads the digits `0` to `9` alone.
-/

set_option autoImplicit false
set_option relaxedAutoImplicit false

namespace DeskAssistant.Text

/-- The code point of the digit zero of every decimal script, in ascending order. -/
def zeros : List Nat :=
  [0x30, 0x660, 0x6f0, 0x7c0, 0x966, 0x9e6, 0xa66, 0xae6, 0xb66, 0xbe6, 0xc66, 0xce6, 0xd66,
   0xde6, 0xe50, 0xed0, 0xf20, 0x1040, 0x1090, 0x17e0, 0x1810, 0x1946, 0x19d0, 0x1a80, 0x1a90,
   0x1b50, 0x1bb0, 0x1c40, 0x1c50, 0xa620, 0xa8d0, 0xa900, 0xa9d0, 0xa9f0, 0xaa50, 0xabf0, 0xff10,
   0x104a0, 0x10d30, 0x11066, 0x110f0, 0x11136, 0x111d0, 0x112f0, 0x11450, 0x114d0, 0x11650,
   0x116c0, 0x11730, 0x118e0, 0x11950, 0x11c50, 0x11d50, 0x11da0, 0x16a60, 0x16ac0, 0x16b50,
   0x1d7ce, 0x1d7d8, 0x1d7e2, 0x1d7ec, 0x1d7f6, 0x1e140, 0x1e2f0, 0x1e950, 0x1fbf0]

/-- The value of a decimal digit of any script. -/
def digitValue? (c : Char) : Option Nat :=
  (zeros.find? (fun first ↦ first ≤ c.toNat && c.toNat < first + 10)).map (c.toNat - ·)

/-- The value of one of the digits `0` to `9`. -/
def asciiDigitValue? (c : Char) : Option Nat :=
  if '0' ≤ c ∧ c ≤ '9' then some (c.toNat - 48) else none

theorem asciiDigitValue?_eq (c : Char) :
    asciiDigitValue? c = if c.isDigit then some (c.toNat - 48) else none := by
  have hrange : ('0' ≤ c ∧ c ≤ '9') ↔ c.isDigit = true := by
    rw [Char.isDigit, Bool.and_eq_true, decide_eq_true_eq, decide_eq_true_eq]
    rfl
  by_cases hdigit : c.isDigit = true
  · rw [asciiDigitValue?, if_pos (hrange.mpr hdigit), if_pos hdigit]
  · rw [asciiDigitValue?, if_neg (mt hrange.mp hdigit), if_neg hdigit]

theorem asciiDigitValue?_of_isDigit {c : Char} (h : c.isDigit = true) :
    asciiDigitValue? c = some (c.toNat - 48) := by
  rw [asciiDigitValue?_eq, if_pos h]

theorem isSome_asciiDigitValue? (c : Char) : (asciiDigitValue? c).isSome = c.isDigit := by
  cases hdigit : c.isDigit <;> simp [asciiDigitValue?_eq, hdigit]

end DeskAssistant.Text
