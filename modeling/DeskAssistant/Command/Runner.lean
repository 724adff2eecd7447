import DeskAssistant.Fault
import DeskAssistant.Completion.Failure
import DeskAssistant.Log.Record

/-!
# Commands

The command line of each agent, and the guard that stops a command after the time limit. The guard
is used when it can be found; without it the command runs as it is.
-/

set_option autoImplicit false
set_option relaxedAutoImplicit false

namespace DeskAssistant

/-! ### Agents -/

namespace Agent

/-- What is passed where an agent takes a list of servers or tools that is to be empty. -/
def nothingAllowed : String := "llmdesk-none"

/-- The option behind which an agent is told where to write its last message. -/
def outputOption : String := "--output-last-message"

/-- The command that asks an agent. -/
def command (agent : Agent) (bypassApprovals : Bool) (binary prompt outputPath : String) :
    List String :=
  match agent with
  | codex =>
    binary ::
      (if bypassApprovals then ["exec", "--dangerously-bypass-approvals-and-sandbox"]
        else ["-a", "never", "exec", "-s", "read-only"]) ++
      ["--color", "never", "--skip-git-repo-check", outputOption, outputPath, prompt]
  | gemini =>
    [binary, "-p", prompt, "--output-format", "json", "--allowed-mcp-server-names", nothingAllowed,
      "--allowed-tools", nothingAllowed]

/-- Where an agent is installed below the home directory. -/
def installedNames (agent : Agent) : List String := [".local", "bin", agent.program]

end Agent

namespace Provider

/-- The agent to run for a provider; the default has to be resolved before. -/
def build (provider : Provider) : Except Completion.Failure Agent :=
  match provider.agent? with
  | some agent => .ok agent
  | none => .error .noProvider

end Provider

namespace Command

/-! ### The time limit -/

/-- The program that guards a command. -/
def guardProgram : String := "timeout"

structure Runner where
  seconds : Int
  positive : 1 ≤ seconds
  deriving DecidableEq

namespace Runner

/-- The runner with a time limit of at least one second. -/
def ofSeconds (seconds : Int) : Runner := ⟨max 1 seconds, Int.le_max_left 1 seconds⟩

def record (level : Int) (template : String) (arguments : List String) : Log.Record :=
  { level, source := "llmdesk.ai.runner", template, arguments }

/-- A command behind its guard, when `guard` was found. -/
def wrap (runner : Runner) (guard : Option String) (command : List String) :
    List Log.Record × List String :=
  match guard.filter (fun path ↦ !path.isEmpty) with
  | none =>
    ([record Log.debug "timeout utility not found; running agent without a time limit" []],
      command)
  | some path => ([], path :: "--signal=KILL" :: (toString runner.seconds ++ "s") :: command)

/-- The record of starting a command. -/
def spawning (runner : Runner) (program : String) (command : List String) : Log.Record :=
  record Log.debug "Spawning %s (%s args, timeout=%ss)"
    [program, toString command.length, toString runner.seconds]

end Runner

/-! ### What becomes of a command -/

/-- What starting a command leads to: a run with its outcome, an error of the operating system, or
a fault. -/
inductive Spawned where
  | completed (outcome : Outcome)
  | refused (error : File.OsError)
  | broke (fault : Fault)
  deriving Repr, DecidableEq

/-- The record of an outcome. -/
def exitRecord (program : String) (outcome : Outcome) : Log.Record :=
  Runner.record Log.debug "%s exited with status %s (stdout=%s chars, stderr=%s chars)"
    [program, toString outcome.status, toString outcome.output.length,
      toString outcome.errorOutput.length]

/-- The record of a command that could not be started. -/
def refusalRecord (program : String) (error : File.OsError) : Log.Record :=
  Runner.record Log.warning "Failed to spawn %s: %s" [program, error.message]

/-- Accepts the outcome of a run that ended with status zero. -/
def checkExit (program : String) (outcome : Outcome) :
    List Log.Record × Except Completion.Failure Unit :=
  if outcome.succeeded then ([], .ok ())
  else
    let template :=
      if outcome.timedOut then "%s timed out (exit status %s)" else "%s failed with exit status %s"
    ([Runner.record Log.warning template [program, toString outcome.status]],
      .error (.exited program outcome))

end Command

end DeskAssistant
