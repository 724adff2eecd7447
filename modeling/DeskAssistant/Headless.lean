import DeskAssistant.Session.Work

/-!
# Without a panel

One question can be asked without a panel. It is a job of a session of its own; the reply goes to
the output and ends in a line feed, and an error goes to the error stream. The exit status is zero
exactly when there was a question and its job had no error.
-/

set_option autoImplicit false
set_option relaxedAutoImplicit false

namespace DeskAssistant.Headless

/-- How the program ends, and what it writes. -/
structure Report where
  status : Nat
  output : String := ""
  errorOutput : String := ""
  deriving Repr, DecidableEq

/-- The end of a run without a reply. -/
def failure (message : String) : Report := { status := 1, errorOutput := message ++ "\n" }

def missingPrompt : String := "Missing prompt"

def notAccepted : String := "Assistant is not accepting requests"

/-- A text that ends in a line feed. -/
def terminated (text : String) : String :=
  if Text.endsWith text.toList ['\n'] then text else text ++ "\n"

/-- The end of a run with the result of its job. -/
def reportOf (result : Job.Result) : Report :=
  match result.error.filter (fun error ↦ !error.isEmpty) with
  | some error => failure error
  | none => { status := 0, output := terminated result.replyText }

/-- The desk with the one session of a run. -/
def openDesk (source : ContextSource) : Desk :=
  Desk.openSession {} { inRegistry := false, source }

variable {σ : Type}

/-- Asks one question: the report, the desk with its history, and the next state of the agents. A
worker whose thread cannot be started does nothing. The result of an accepted question has been
applied when the loop has run, so the last case does not arise. The loop is drained and closed in
the end; a run without a question has none. -/
def run (agents : Agents σ) (canStart : Bool) (prompt : String) (options : Prompt.Options)
    (provider : Provider) (source : ContextSource) (state : σ) : Report × Desk × σ :=
  if prompt.isEmpty then (failure missingPrompt, {}, state)
  else
    match (openDesk source).askAndStart agents (if canStart then .deferred else .impossible) 0
      prompt options provider state with
    | (false, desk, state) => (failure notAccepted, desk.drain.closeLoop, state)
    | (true, desk, state) =>
      let (_, desk, state) := desk.work agents 0 state
      let desk := desk.runAll
      let report := match desk.applied with
        | (_, result) :: _ => reportOf result
        | [] => { status := 1 }
      (report, desk.drain.closeLoop, state)

/-! ### The log -/

def record (template : String) (arguments : List String) : Log.Record :=
  { level := Log.debug, source := "llmdesk.app", template, arguments }

/-- The records of an entry. Without a panel a notice to the surface is only noted. -/
def recordsOf : Entry → List Log.Record
  | .record record => [record]
  | .notice _ (.busy value) => [record "Assistant busy=%s" [Log.shownTruth value]]
  | .notice _ (.status text) =>
    if text.isEmpty then [] else [record "Assistant status: %s" [text]]
  | .notice _ _ => []

/-- The records of a history. -/
def records (history : List Entry) : List Log.Record := history.flatMap recordsOf

end DeskAssistant.Headless
