import DeskAssistant.Json.Reader

/-!
# What is wrong with a document

A document that is malformed is complained about at a place in it. That is where the first token
begins that does not fit, or the end of the document; within a text that cannot be read it is the
character at fault, or the opening quote of a text that does not end. `report` shows the complaint
with the line, the column and the number of the character.
-/

set_option autoImplicit false
set_option relaxedAutoImplicit false

namespace DeskAssistant.Json

inductive Complaint where
  | noValue
  | noKey
  | noColon
  | noComma
  | extraData
  | openText
  | controlCharacter
  | escape
  | codeEscape
  | byteOrderMark
  deriving Repr, DecidableEq

namespace Complaint

def text : Complaint → String
  | noValue => "Expecting value"
  | noKey => "Expecting property name enclosed in double quotes"
  | noColon => "Expecting ':' delimiter"
  | noComma => "Expecting ',' delimiter"
  | extraData => "Extra data"
  | openText => "Unterminated string starting at"
  | controlCharacter => "Invalid control character at"
  | escape => "Invalid \\escape"
  | codeEscape => "Invalid \\uXXXX escape"
  | byteOrderMark => "Unexpected UTF-8 BOM (decode using utf-8-sig)"

/-! ### Places

A place in a document is given by the text from there on. -/

/-- The complaint about a text behind its opening quote, which stands at `opening`. The digits of an
escape, behind which the document has to go on, are ordinary characters once they are known to be
there. -/
def ofText (opening : List Char) : List Char → Complaint × List Char
  | [] | ['\\'] => (openText, opening)
  | '\\' :: letter :: rest =>
    if letter = 'u' then
      if rest.length ≤ 4 ∨ (Fragment.Literal.hexCode? rest).isNone then (codeEscape, 'u' :: rest)
      else ofText opening rest
    else if (Scan.shortEscapes.lookup letter).isNone then (escape, '\\' :: letter :: rest)
    else ofText opening rest
  | c :: rest => if c.toNat < 0x20 then (controlCharacter, c :: rest) else ofText opening rest

/-- The complaint of a reader that meets something else. -/
def ofExpected : Reader.Expected → Complaint
  | .value | .itemOrEnd => noValue
  | .key | .keyOrEnd => noKey
  | .colon => noColon
  | .separator => noComma

/-- The complaint of a reader about the token that begins at a place, or about the end. -/
def ofToken : Reader.State → Token → List Char → Complaint × List Char
  | .reading .value _, .malformed, '"' :: rest
  | .reading .itemOrEnd _, .malformed, '"' :: rest
  | .reading .key _, .malformed, '"' :: rest
  | .reading .keyOrEnd _, .malformed, '"' :: rest => ofText ('"' :: rest) rest
  | .reading expected _, _, place => (ofExpected expected, place)
  | _, _, place => (extraData, place)

/-- The complaint of a reader that goes on from a place. -/
def ofReader (state : Reader.State) (document : List Char) : Complaint × List Char :=
  match _skipped : document.dropWhile Scan.isBlank with
  | [] => ofToken state .malformed []
  | c :: rest =>
    match Reader.step state (Scan.next c rest).1 with
    | .refused _ => ofToken state (Scan.next c rest).1 (c :: rest)
    | next => ofReader next (Scan.next c rest).2
  termination_by document.length
  decreasing_by exact Scan.length_after_next_lt _skipped

/-- What is wrong with a document, and where. -/
def ofDocument (document : List Char) : Complaint × List Char :=
  if document.head? = some '\ufeff' then (byteOrderMark, document)
  else ofReader (.reading .value []) document

/-- A complaint about a document behind the characters in `front`. -/
def shown (complaint : Complaint) (front : List Char) : String :=
  complaint.text ++ ": line " ++ toString (front.count '\n' + 1) ++ " column " ++
    toString ((front.reverse.takeWhile (· ≠ '\n')).length + 1) ++ " (char " ++
    toString front.length ++ ")"

/-- The report on a document that is malformed. -/
def report (document : String) : String :=
  let (complaint, place) := ofDocument document.toList
  complaint.shown (document.toList.take (document.length - place.length))

end Complaint

end DeskAssistant.Json
