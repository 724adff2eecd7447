import DeskAssistant.Tool.Call
import DeskAssistant.Fragment.Field
import DeskAssistant.Text.Integer
import DeskAssistant.Text.Cap

/-!
# Replies with tool calls

A model's reply has three fields: a text for the user, a text to insert into the script, and the
tools it asks for. `ModelReply.read` looks them up in the reply's text. A text without any of the
three fields is itself the text for the user. `readCalls` walks the array of calls and keeps at
most eight that name a tool.
-/

set_option autoImplicit false
set_option relaxedAutoImplicit false

namespace DeskAssistant

/-! ### One call -/

/-- What an object in the array of calls turns out to be. -/
inductive CallItem where
  | call (call : ToolCall)
  /-- The object names no known tool. -/
  | unknown (name : String)
  /-- The object has no name. -/
  | unnamed
  deriving Repr, DecidableEq

namespace CallItem

/-- The line count in the arguments of a call: the default where it is missing, no integer, or not
positive. -/
def lineCount (arguments : List Char) : Except Text.TooManyDigits Int :=
  match Fragment.Field.value? arguments "n_lines" with
  | none => .ok Tool.defaultLineCount
  | some value =>
    (Text.readInteger value).map (fun
      | some (count, _) => if 0 < count then count else Tool.defaultLineCount
      | none => Tool.defaultLineCount)

/-- The style in the arguments of a call. -/
def style (arguments : List Char) : String :=
  if Fragment.Field.string? arguments "style" = some Tool.fullStyle then Tool.fullStyle
  else Tool.defaultStyle

/-- Reads an object of the array of calls. Only the arguments that the tool looks at are read. -/
def read (object : List Char) : Except Text.TooManyDigits CallItem :=
  match Fragment.Field.string? object "name" with
  | none => .ok .unnamed
  | some name =>
    if name.isEmpty then .ok .unnamed
    else
      match Tool.ofName? name, Fragment.Field.span? object "args" '\x7b' '\x7d' with
      | none, _ => .ok (.unknown name)
      | some .commandLogTail, some arguments =>
        (lineCount arguments).map (fun count ↦ .call { name, lineCount := count })
      | some .lastModelSummary, some arguments => .ok (.call { name, style := style arguments })
      | some _, _ => .ok (.call { name })

end CallItem

/-! ### The array of calls -/

/-- The calls read from an array and the fault that ended it. -/
structure CallScan where
  calls : List ToolCall := []
  /-- The names that were dropped, the latest first. -/
  dropped : List String := []
  fault : Option Text.TooManyDigits := none
  deriving Repr, DecidableEq

namespace CallScan

/-- Takes up one object of the array. -/
def add (scan : CallScan) : Except Text.TooManyDigits CallItem → CallScan
  | .ok (.call call) => { scan with calls := scan.calls ++ [call] }
  | .ok (.unknown name) => { scan with dropped := name :: scan.dropped }
  | .ok .unnamed => scan
  | .error fault => { scan with fault := some fault }

/-- No further object is to be read. -/
def finished (scan : CallScan) : Bool :=
  scan.fault.isSome || ToolCall.limit ≤ scan.calls.length

/-- Reads the objects between the brackets of an array, with blanks and commas between them, up to
the first thing that is no closed object. -/
def readOnto (scan : CallScan) (text : List Char) : CallScan :=
  if scan.finished then scan
  else
    match _skipped : Text.skipBlanks text with
    | [] => scan
    | c :: rest =>
      if c = ',' then readOnto scan rest
      else if c = '\x7b' then
        match Fragment.Bracket.closing? '\x7b' '\x7d' (c :: rest) with
        | none => scan
        | some offset =>
          readOnto (scan.add (CallItem.read ((c :: rest).take (offset + 1)))) (rest.drop offset)
      else scan
  termination_by text.length
  decreasing_by
    · have := Text.length_skipBlanks_le text
      simp only [_skipped, List.length_cons] at this
      omega
    · have := Text.length_skipBlanks_le text
      simp only [_skipped, List.length_cons] at this
      simp only [List.length_drop]
      omega

/-- Reads an array from its opening bracket through its closing one. -/
def read (array : List Char) : CallScan := readOnto {} (array.drop 1).dropLast

end CallScan

/-! ### A reply -/

structure ModelReply where
  assistantText : String := ""
  proposedInsert : String := ""
  toolCalls : List ToolCall := []
  deriving Repr, DecidableEq

namespace ModelReply

/-- The array of calls in a reply. -/
def callArray? (text : List Char) : Option (List Char) :=
  Fragment.Field.span? text "tool_calls" '[' ']'

/-- Reads a reply: the reply or the fault in it, and the names of the calls that were dropped. -/
def read (raw : String) : List String × Except Text.TooManyDigits ModelReply :=
  let text := raw.toList
  match Fragment.Field.string? text "assistant_text",
      Fragment.Field.string? text "proposed_insert", callArray? text with
  | none, none, none => ([], .ok { assistantText := raw })
  | assistantText, proposedInsert, array =>
    let scan := (array.map CallScan.read).getD {}
    (scan.dropped.reverse,
      match scan.fault with
      | some fault => .error fault
      | none =>
        .ok { assistantText := assistantText.getD ""
              proposedInsert := proposedInsert.getD ""
              toolCalls := scan.calls })

/-- The label in front of a text to insert. -/
def insertLabel : String := "[Proposed script]\n"

/-- The reply as it is shown: its text, then the labelled text to insert, or `fallback` when both
are empty. -/
def display (reply : ModelReply) (fallback : String) : String :=
  if reply.proposedInsert.isEmpty then
    if reply.assistantText.isEmpty then fallback else reply.assistantText
  else
    let before := if reply.assistantText.isEmpty then "" else reply.assistantText ++ "\n\n"
    Text.endLine (before ++ insertLabel ++ reply.proposedInsert)

end ModelReply

end DeskAssistant
