/-!
# Blank characters

Two notions of a blank character are in use. `isBlank` is the set skipped between the tokens of an
agent's reply: the six ASCII characters space, tab, line feed, return, form feed and vertical tab.
`isSpace` is the set removed around a setting: every character with the Unicode property
`White_Space`, and the four information separators. `skipBlanks_length_le` bounds what is left
after skipping, and `isSpace_of_isBlank` says that the first set lies in the second.
-/

set_option autoImplicit false
set_option relaxedAutoImplicit false

namespace DeskAssistant.Text

/-! ### Blanks between tokens -/

/-- Space, tab, line feed, return, form feed and vertical tab. -/
def isBlank (c : Char) : Bool :=
  c == ' ' || c == '\t' || c == '\n' || c == '\r' || c == '\x0c' || c == '\x0b'

/-- What is left of a text once its leading blanks are dropped. -/
def skipBlanks (text : List Char) : List Char := text.dropWhile isBlank

theorem length_skipBlanks_le (text : List Char) : (skipBlanks text).length ≤ text.length :=
  (List.dropWhile_suffix isBlank).length_le

/-- The index of the first character at or after `position` that is not blank. An index past the
end of the text stays where it is. -/
def skipBlanksFrom (text : List Char) (position : Nat) : Nat :=
  position + ((text.drop position).takeWhile isBlank).length

/-! ### Space around a setting -/

/-- A character with the Unicode property `White_Space`, or one of the information separators
U+001C to U+001F. -/
def isSpace (c : Char) : Bool :=
  let code := c.toNat
  (0x09 ≤ code && code ≤ 0x0d) || (0x1c ≤ code && code ≤ 0x20) || code == 0x85 || code == 0xa0 ||
    code == 0x1680 || (0x2000 ≤ code && code ≤ 0x200a) || code == 0x2028 || code == 0x2029 ||
    code == 0x202f || code == 0x205f || code == 0x3000

theorem isSpace_of_isBlank (c : Char) (h : isBlank c = true) : isSpace c = true := by
  simp only [isBlank, Bool.or_eq_true, beq_iff_eq] at h
  rcases h with ((((rfl | rfl) | rfl) | rfl) | rfl) | rfl <;> rfl

/-- A list of characters without the space at its two ends. -/
def stripSpace (text : List Char) : List Char :=
  ((text.dropWhile isSpace).reverse.dropWhile isSpace).reverse

/-- A text without the space at its two ends. -/
def strip (text : String) : String := String.ofList (stripSpace text.toList)

end DeskAssistant.Text
