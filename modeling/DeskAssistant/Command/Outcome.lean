/-!
# Outcomes of a process

What is kept of an agent's run: both output streams and the exit status. A negative status is the
number of the signal that ended the process. `Outcome.failureMessage` is the message for a run
that did not succeed.
-/

set_option autoImplicit false
set_option relaxedAutoImplicit false

namespace DeskAssistant.Command

/-- The environment variable that holds the time limit. -/
def timeoutVariable : String := "LLMDESK_LLM_TIMEOUT_SEC"

structure Outcome where
  output : String := ""
  errorOutput : String := ""
  status : Int := 0
  deriving Repr, DecidableEq

namespace Outcome

def succeeded (outcome : Outcome) : Bool := outcome.status == 0

/-- The statuses that report the end of the time limit: 124, or 137 when the guard had to kill the
process. -/
def timeoutStatuses : List Int := [124, 137]

/-- The time limit was reached. -/
def timedOut (outcome : Outcome) : Bool := timeoutStatuses.contains outcome.status

/-- How the process ended. -/
def ending (outcome : Outcome) : String :=
  if outcome.status < 0 then "killed by signal " ++ toString (-outcome.status)
  else "exit status " ++ toString outcome.status

/-- The message for a failed run of `program`: how it ended, and the stream that says most. -/
def failureMessage (program : String) (outcome : Outcome) : String :=
  program ++ " failed (" ++ outcome.ending ++ ")" ++
    (if outcome.timedOut then " (timed out; set " ++ timeoutVariable ++ ")" else "") ++
    (if !outcome.errorOutput.isEmpty then "\n\nstderr:\n" ++ outcome.errorOutput
      else if !outcome.output.isEmpty then "\n\nstdout:\n" ++ outcome.output
      else "")

end Outcome

/-- A message with the first stream behind it that is not empty: the error stream, or the output
when `outputFirst` is set. -/
def describe (message : String) (output errorOutput : Option String) (outputFirst : Bool) :
    String :=
  let streams := [("stderr", errorOutput), ("stdout", output)]
  let streams := if outputFirst then streams.reverse else streams
  match streams.find? (fun stream ↦ !(stream.2.getD "").isEmpty) with
  | some (label, text) => message ++ " (" ++ label ++ " follows)\n" ++ text.getD ""
  | none => message

end DeskAssistant.Command
