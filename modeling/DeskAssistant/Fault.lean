import DeskAssistant.File.OsError
import DeskAssistant.Text.Integer
import DeskAssistant.Text.Utf8

/-!
# Faults

A fault ends the call in which it occurs and is not one of the failures that a completion reports.
Each has one message.
-/

set_option autoImplicit false
set_option relaxedAutoImplicit false

namespace DeskAssistant

inductive Fault where
  /-- A number in a reply or a settings file has too many digits. -/
  | digits (fault : Text.TooManyDigits)
  /-- An integer has too many digits to be written out. -/
  | integerTooLong
  /-- A completion was given both a reply and an error. -/
  | replyAndError
  /-- A completion was given neither a reply nor an error. -/
  | noReplyNoError
  /-- A second result was posted to the same slot. -/
  | slotTaken
  /-- A thread could not be started. -/
  | threadRefused
  /-- A participant failed with a message of its own. -/
  | raised (message : String)
  /-- A scripted participant was asked once more than its script provides for. -/
  | scriptEnded (what : String)
  | os (error : File.OsError)
  /-- A file is not valid UTF-8. -/
  | undecodable (flaw : Text.Utf8.Flaw)
  /-- A path or an argument holds the character NUL. -/
  | embeddedNul
  /-- What was given as a path is none. -/
  | noPath
  /-- An object or an array of a document lies too deep. -/
  | documentTooDeep (isObject : Bool)
  /-- A value has too many levels to be copied. -/
  | valueTooDeep
  /-- A path without a name was given where a name is needed. -/
  | nameless (path : String)
  /-- A path begins with the home directory of someone who is not known. -/
  | homeUnknown
  /-- The widget toolkit is not installed. -/
  | toolkitMissing
  /-- The event loop of the toolkit is not installed. -/
  | eventLoopMissing
  deriving Repr, DecidableEq

namespace Fault

/-- An outcome in which an error of the operating system is told from other faults. -/
def apart {α : Type} (outcome : Except Fault α) : Except Fault (Except File.OsError α) :=
  match outcome with
  | .ok value => .ok (.ok value)
  | .error (.os error) => .ok (.error error)
  | .error fault => .error fault

def message : Fault → String
  | digits fault => fault.message
  | integerTooLong =>
    "Exceeds the limit (" ++ toString Text.digitLimit ++
      " digits) for integer string conversion; " ++
      "use sys.set_int_max_str_digits() to increase the limit"
  | replyAndError => "CompletionResult cannot carry both a reply and an error"
  | noReplyNoError => "CompletionResult requires a reply or an error"
  | slotTaken => "ResultSlot already received a result"
  | threadRefused => "can't start new thread"
  | raised message => message
  | scriptEnded what => "no scripted " ++ what
  | os error => error.message
  | undecodable flaw => flaw.message
  | embeddedNul => "embedded null byte"
  | noPath => "expected str, bytes or os.PathLike object, not list"
  | documentTooDeep isObject =>
    "maximum recursion depth exceeded while decoding a JSON " ++
      (if isObject then "object" else "array") ++ " from a unicode string"
  | valueTooDeep => "maximum recursion depth exceeded"
  | nameless path => "PosixPath(" ++ Text.quoted path ++ ") has an empty name"
  | homeUnknown => "Could not determine home directory."
  | toolkitMissing => "PySide6 must be installed to launch the assistant panel."
  | eventLoopMissing => "qasync is required to run the async Qt event loop."

end Fault

end DeskAssistant
