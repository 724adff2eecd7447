import DeskAssistant.Text.Cap

/-!
# Lines of a text

`unifyLineEnds` turns every line end into a line feed. `firstLine` is the part of a message in
front of its first line boundary, of which there are more kinds than line feeds. `lastLines` is
the end of a command log: it drops everything through the line feed that has `count` further line
feeds behind it, and so keeps `count` lines of a text that ends in a line feed.
-/

set_option autoImplicit false
set_option relaxedAutoImplicit false

namespace DeskAssistant.Text

/-! ### Line ends -/

/-- Writes every line end, a return with or without a line feed behind it, as one line feed. The
accumulator holds what was written so far, backwards. -/
def unifyLineEndsOnto : List Char → List Char → List Char
  | written, [] => written.reverse
  | written, '\r' :: '\n' :: rest => unifyLineEndsOnto ('\n' :: written) rest
  | written, '\r' :: rest => unifyLineEndsOnto ('\n' :: written) rest
  | written, c :: rest => unifyLineEndsOnto (c :: written) rest

/-- A text in which every line ends in a single line feed. -/
def unifyLineEnds (text : String) : String := String.ofList (unifyLineEndsOnto [] text.toList)

/-- A character at which a line of a message ends. -/
def isLineBoundary (c : Char) : Bool :=
  let code := c.toNat
  (0x0a ≤ code && code ≤ 0x0d) || (0x1c ≤ code && code ≤ 0x1e) || code == 0x85 ||
    code == 0x2028 || code == 0x2029

/-- The first line of a message, without its end; an empty message has no line. -/
def firstLine? (text : String) : Option String :=
  if text.isEmpty then none
  else some (String.ofList (text.toList.takeWhile (fun c ↦ !isLineBoundary c)))

/-! ### The last lines -/

/-- The number of line feeds in a text. -/
def lineFeeds (text : List Char) : Nat := text.countP (· == '\n')

/-- What is left behind the first `count` line feeds. -/
def dropLines : Nat → List Char → List Char
  | 0, text => text
  | _ + 1, [] => []
  | count + 1, c :: rest => if c = '\n' then dropLines count rest else dropLines (count + 1) rest

/-- The end of a text behind the line feed that has exactly `count` line feeds after it, or the
whole text when there are no more than `count`. -/
def lastLines (text : List Char) (count : Nat) : List Char :=
  dropLines (lineFeeds text - count) text

end DeskAssistant.Text
