import DeskAssistant.File.OsError
import DeskAssistant.Text.Utf8
import DeskAssistant.Fragment.Field
import DeskAssistant.Completion.Failure
import DeskAssistant.Log.Record

/-!
# Reply channels

An agent's reply comes over one of two channels: a file that it was told to write, or a string
field of a JSON object in its output, which may stand among other text. Both channels refuse a
reply of more than `replyLimit` bytes.
-/

set_option autoImplicit false
set_option relaxedAutoImplicit false

namespace DeskAssistant.Completion.Channel

/-- The longest reply that is accepted, in bytes of UTF-8. -/
def replyLimit : Int := 2 * 1024 * 1024

/-! ### A field of the output -/

/-- The text from its first opening brace to its last closing one. -/
def objectSlice? (text : List Char) : Option (List Char) :=
  match (text.dropWhile (· ≠ '\x7b')).reverse.dropWhile (· ≠ '\x7d') with
  | [] => none
  | slice => some slice.reverse

/-- The string `field` of the object in an agent's output: `none` when there is no object or no
such field. -/
def embedded (output field : String) (limit : Int := replyLimit) :
    Except Failure (Option String) :=
  match (objectSlice? output.toList).bind (fun slice ↦ Fragment.Field.string? slice field) with
  | none => .ok none
  | some value =>
    if limit < value.utf8ByteSize then .error .replyTooLong else .ok (some value)

/-! ### A file -/

def sizeWarning (path : String) (size : Nat) (limit : Int) : Log.Record where
  level := Log.warning
  source := "llmdesk.ai.extract"
  template := "Reply file %s is %s bytes (limit %s)"
  arguments := [path, toString size, toString limit]

/-- The text of the reply file at `path`, given what reading it gave; invalid UTF-8 is replaced. -/
def fromFile (path : String) (content : Except File.OsError ByteArray)
    (limit : Int := replyLimit) : List Log.Record × Except Failure String :=
  match content with
  | .error fault => ([], .error (.outputFileUnreadable fault.reason))
  | .ok bytes =>
    if limit < bytes.size then ([sizeWarning path bytes.size limit], .error .replyTooLong)
    else ([], .ok (Text.Utf8.decodeLossy bytes))

/-! ### The reply of a run -/

/-- The field that holds the reply in an output. -/
def replyField : String := "response"

/-- What an agent writes to its error stream when it broke down in spite of a good status. -/
def criticalMarker : String := "An unexpected critical error occurred"

/-- The reply in the output of a successful run. -/
def outputReply (outcome : Command.Outcome) : Except Failure String :=
  if Text.contains outcome.errorOutput criticalMarker then
    .error (.criticalError outcome.errorOutput)
  else
    match embedded outcome.output replyField with
    | .error failed => .error failed
    | .ok none =>
      .error (if !outcome.output.isEmpty then .unrecognizedOutput outcome.output
        else if !outcome.errorOutput.isEmpty then .errorOutputOnly outcome.errorOutput
        else .noReply)
    | .ok (some reply) => if reply.isEmpty then .error .noReply else .ok reply

/-- The reply in the output file of a successful run, given the file's path, if there is one, and
what reading it gave. -/
def fileReply (file : Option (String × Except File.OsError ByteArray))
    (outcome : Command.Outcome) : List Log.Record × Except Failure String :=
  match file with
  | none => ([], .error .outputFileUnallocated)
  | some (path, content) =>
    match fromFile path content with
    | (records, .ok reply) =>
      (records, if reply.isEmpty then .error (.emptyFile outcome) else .ok reply)
    | (records, .error failed) => (records, .error failed)

end DeskAssistant.Completion.Channel
