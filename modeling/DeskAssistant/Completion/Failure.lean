import DeskAssistant.Provider
import DeskAssistant.Command.Outcome

/-!
# Failures of a completion

The ways in which a completion fails, each with its message. A failure is of one of three kinds:
bad input that is rejected before anything runs, an agent that could not be run or gave no usable
reply, and a reply that is too long.
-/

set_option autoImplicit false
set_option relaxedAutoImplicit false

namespace DeskAssistant.Completion

inductive FailureKind where
  | other
  | data
  | external
  | tooLong
  deriving Repr, DecidableEq

namespace FailureKind

def all : List FailureKind := [other, data, external, tooLong]

def name : FailureKind → String
  | other => "error"
  | data => "data"
  | external => "external"
  | tooLong => "too_long"

/-- The kind with exactly this name. -/
def ofName? (name : String) : Option FailureKind := all.find? (·.name = name)

end FailureKind

inductive Failure where
  | missingPrompt
  | unknownProvider (text : String)
  | noProvider
  | executableMissing (agent : Agent)
  | outputFileRefused (reason : String)
  | spawnFailed (program reason : String)
  | exited (program : String) (outcome : Command.Outcome)
  | outputFileUnreadable (reason : String)
  | outputFileUnallocated
  | emptyFile (outcome : Command.Outcome)
  | criticalError (errorOutput : String)
  | unrecognizedOutput (output : String)
  | errorOutputOnly (errorOutput : String)
  | noReply
  | replyTooLong
  deriving Repr, DecidableEq

namespace Failure

def kind : Failure → FailureKind
  | missingPrompt | unknownProvider _ | noProvider => .data
  | replyTooLong => .tooLong
  | _ => .external

def message : Failure → String
  | missingPrompt => "Missing prompt"
  | unknownProvider text => "Unknown LLM provider '" ++ text ++ "' (expected codex|gemini)"
  | noProvider => "No LLM provider selected"
  | executableMissing agent =>
    "Cannot find " ++ agent.program ++ " executable (set " ++ agent.binaryVariable ++ ")"
  | outputFileRefused reason => "Failed to create temp file for codex output: " ++ reason
  | spawnFailed program reason => "Failed to run " ++ program ++ " CLI: " ++ reason
  | exited program outcome => outcome.failureMessage program
  | outputFileUnreadable reason => "Failed to read LLM output file: " ++ reason
  | outputFileUnallocated => "codex output file was not allocated"
  | emptyFile outcome =>
    Command.describe "codex returned no reply" outcome.output outcome.errorOutput false
  | criticalError errorOutput => "gemini CLI error:\n" ++ errorOutput
  | unrecognizedOutput output => "Failed to parse gemini response (output follows)\n" ++ output
  | errorOutputOnly errorOutput => "gemini returned no JSON (stderr follows)\n" ++ errorOutput
  | noReply => "gemini returned no reply"
  | replyTooLong => "LLM reply too long"

/-- The agent was stopped by the time limit. -/
def timedOut : Failure → Bool
  | exited _ outcome => outcome.timedOut
  | _ => false

end Failure

/-- The provider that a text selects, or the failure to know it. -/
def selectProvider (text : String) : Except Failure Provider :=
  match Provider.parse? text with
  | some provider => .ok provider
  | none => .error (.unknownProvider text)

end DeskAssistant.Completion
