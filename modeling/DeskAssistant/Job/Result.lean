import DeskAssistant.Completion.Result
import DeskAssistant.Tool.Call

/-!
# Jobs and their results

A job is one question of the user. Its request says which agent is asked, with which prompt, and
whether tools may be used; its result carries the text to show, the text to insert, and the stages
that the job went through.
-/

set_option autoImplicit false
set_option relaxedAutoImplicit false

namespace DeskAssistant.Job

/-- The stages of a job. -/
inductive Stage where
  | start
  | round1
  | parse1
  | noTools
  | hasTools
  | execute
  | round2
  | parse2
  | failed
  | done
  deriving Repr, DecidableEq

namespace Stage

def name : Stage → String
  | start => "START"
  | round1 => "ROUND1"
  | parse1 => "PARSE1"
  | noTools => "NO_TOOLS"
  | hasTools => "HAS_TOOLS"
  | execute => "EXECUTE"
  | round2 => "ROUND2"
  | parse2 => "PARSE2"
  | failed => "FAILED"
  | done => "DONE"

def all : List Stage :=
  [start, round1, parse1, noTools, hasTools, execute, round2, parse2, failed, done]

/-- The stage with this name. -/
def ofName? (name : String) : Option Stage := all.find? (·.name = name)

end Stage

structure Request where
  provider : Provider
  prompt : String
  toolsEnabled : Bool := true
  deriving Repr, DecidableEq

structure Result where
  replyText : String
  insertText : String := ""
  error : Option String := none
  rounds : Nat := 0
  toolCalls : List ToolCall := []
  trace : List Stage := []
  deriving Repr, DecidableEq

namespace Result

def succeeded (result : Result) : Bool := result.error.isNone

/-- The result of a job that failed: its message is both the error and the text to show. -/
def failure (message : Option String) (rounds : Nat) (trace : List Stage) : Result :=
  let text := Completion.Result.messageOr message
  { replyText := text, error := some text, rounds, trace }

end Result

end DeskAssistant.Job
