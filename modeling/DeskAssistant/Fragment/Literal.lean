import DeskAssistant.Text.Blank

/-!
# String literals in a fragment

An agent's reply is read as fragments of JSON, in place and without a full parse. A string literal
runs from a quote to the next quote that is not escaped. `Literal.read` decodes the literal at the
beginning of a text, after blanks, and hands back the rest. An escaped code unit above U+00FF and a
malformed escape each become one question mark, so that surrogate pairs become two; a backslash in
front of any other character stands for that character. `Literal.readAt` reads at an index and says
at which index the literal ends.
-/

set_option autoImplicit false
set_option relaxedAutoImplicit false

namespace DeskAssistant.Fragment.Literal

/-! ### Escapes -/

/-- What stands for a character that is not decoded. -/
def placeholder : Char := '?'

/-- The value of a hexadecimal digit in either case. -/
def hexValue? (c : Char) : Option Nat :=
  if '0' ≤ c ∧ c ≤ '9' then some (c.toNat - 48)
  else if 'a' ≤ c ∧ c ≤ 'f' then some (c.toNat - 87)
  else if 'A' ≤ c ∧ c ≤ 'F' then some (c.toNat - 55)
  else none

/-- The code written by the four hexadecimal digits at the beginning of a text, and the rest. -/
def hexCode? : List Char → Option (Nat × List Char)
  | a :: b :: c :: d :: rest => do
    let a ← hexValue? a
    let b ← hexValue? b
    let c ← hexValue? c
    let d ← hexValue? d
    pure (((a * 16 + b) * 16 + c) * 16 + d, rest)
  | _ => none

/-- The character that a single letter behind a backslash stands for. -/
def shortEscape : Char → Char
  | 'b' => '\x08'
  | 'f' => '\x0c'
  | 'n' => '\n'
  | 'r' => '\r'
  | 't' => '\t'
  | c => c

/-- The character written by the escape whose letter is `letter`, and what follows it. -/
def unescape (letter : Char) (rest : List Char) : Char × List Char :=
  if letter = 'u' then
    match hexCode? rest with
    | some (code, rest) => (if code ≤ 0xff then Char.ofNat code else placeholder, rest)
    | none => (placeholder, rest)
  else (shortEscape letter, rest)

theorem length_hexCode? (text rest : List Char) (code : Nat)
    (h : hexCode? text = some (code, rest)) : rest.length + 4 = text.length := by
  unfold hexCode? at h
  split at h
  · simp only [Option.bind_eq_bind, Option.bind_eq_some_iff, Option.pure_def, Option.some.injEq,
      Prod.mk.injEq] at h
    obtain ⟨_, _, _, _, _, _, _, _, _, rfl⟩ := h
    rfl
  · simp at h

theorem length_unescape_le (letter : Char) (rest : List Char) :
    (unescape letter rest).2.length ≤ rest.length := by
  unfold unescape
  split
  · split
    · rename_i h
      have := length_hexCode? _ _ _ h
      dsimp only
      omega
    · exact Nat.le_refl _
  · exact Nat.le_refl _

/-! ### Literals -/

/-- Decodes the characters behind an opening quote up to the closing one. The value so far stands
backwards in `value`; `none` means that the literal is not closed. -/
def readBody (value : List Char) : List Char → Option (List Char × List Char)
  | [] => none
  | c :: rest =>
    if c = '"' then some (value.reverse, rest)
    else if c = '\\' then
      match rest with
      | [] => none
      | letter :: rest => readBody ((unescape letter rest).1 :: value) (unescape letter rest).2
    else readBody (c :: value) rest
  termination_by text => text.length
  decreasing_by
    · have := length_unescape_le letter rest
      simp only [List.length_cons]
      omega
    · simp only [List.length_cons]
      omega

/-- The value of the literal at the beginning of a text, after blanks, and the rest. -/
def read (text : List Char) : Option (List Char × List Char) :=
  match Text.skipBlanks text with
  | '"' :: rest => readBody [] rest
  | _ => none

/-- The value of the literal at an index of a text, after blanks, and the index behind its closing
quote. -/
def readAt (text : List Char) (index : Nat) : Option (List Char × Nat) :=
  (read (text.drop index)).map (fun (value, rest) ↦ (value, text.length - rest.length))

end DeskAssistant.Fragment.Literal
