/-!
# Brackets in a fragment

`closing?` finds the bracket that closes the one at the beginning of a text. Brackets inside string
literals do not count: a quote opens a literal, a backslash inside one escapes the next character,
and an unescaped quote ends it.
-/

set_option autoImplicit false
set_option relaxedAutoImplicit false

namespace DeskAssistant.Fragment.Bracket

/-- Where a scan stands: between literals, inside one, or behind a backslash inside one. -/
inductive Mode where
  | plain
  | quoted
  | escaped
  deriving Repr, DecidableEq

/-- The number of characters in front of the bracket that brings `depth` back to zero, counted from
`offset`. -/
def closingFrom (opening closing : Char) (mode : Mode) (depth : Int) (offset : Nat) :
    List Char → Option Nat
  | [] => none
  | c :: rest =>
    match mode with
    | .escaped => closingFrom opening closing .quoted depth (offset + 1) rest
    | .quoted =>
      let mode := if c = '\\' then .escaped else if c = '"' then .plain else .quoted
      closingFrom opening closing mode depth (offset + 1) rest
    | .plain =>
      if c = '"' then closingFrom opening closing .quoted depth (offset + 1) rest
      else if c = opening then closingFrom opening closing .plain (depth + 1) (offset + 1) rest
      else if c = closing then
        if depth = 1 then some offset
        else closingFrom opening closing .plain (depth - 1) (offset + 1) rest
      else closingFrom opening closing .plain depth (offset + 1) rest

/-- The offset of the bracket that closes the one with which `text` begins; `none` when `text` does
not begin with `opening` or the bracket is not closed. -/
def closing? (opening closing : Char) (text : List Char) : Option Nat :=
  match text with
  | [] => none
  | c :: _ => if c = opening then closingFrom opening closing .plain 0 0 text else none

/-- The index in `text` of the bracket that closes the one at `index`. -/
def closingIndex? (opening closing : Char) (text : List Char) (index : Nat) : Option Nat :=
  (closing? opening closing (text.drop index)).map (index + ·)

/-- The text from its opening bracket through the closing one. -/
def span? (opening closing : Char) (text : List Char) : Option (List Char) :=
  (closing? opening closing text).map (fun offset ↦ text.take (offset + 1))

end DeskAssistant.Fragment.Bracket
