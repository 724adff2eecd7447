import DeskAssistant.Completion.Channel
import DeskAssistant.Completion.Host
import DeskAssistant.Completion.Result
import DeskAssistant.Settings

/-!
# The completion service

A completion resolves the provider, finds the agent's executable, runs it once, and reads its
reply. `Service.complete` reports a failure to its caller and in the error channel, which is
cleared by a success; `Service.completeWithError` returns a result and leaves the channel alone.
-/

set_option autoImplicit false
set_option relaxedAutoImplicit false

namespace DeskAssistant.Completion

/-- Why a completion ends early: with a failure that it reports, or with a fault. -/
inductive Stop where
  | failed (failure : Failure)
  | broke (fault : Fault)
  deriving Repr, DecidableEq

/-- A part of a completion, carried out on a host. The host is kept when it ends early. -/
abbrev Work (σ α : Type) := ExceptT Stop (StateM (Host σ)) α

namespace Work

variable {σ α : Type}

def note (records : List Log.Record) : Work σ Unit := modify (·.note records)

def fail (failure : Failure) : Work σ α := throw (.failed failure)

/-- Goes on with a value, or stops at a fault. -/
def orBreak (outcome : Except Fault α) : Work σ α :=
  match outcome with
  | .ok value => pure value
  | .error fault => throw (.broke fault)

/-- Notes records and goes on with a value, or stops at a failure. -/
def settle (outcome : List Log.Record × Except Failure α) : Work σ α := do
  note outcome.1
  match outcome.2 with
  | .ok value => pure value
  | .error failure => fail failure

def search (program : String) : Work σ (Option String) := do
  let (found, host) := (← get).search program
  set host
  pure found

/-- The executable of an agent: the one that is set, else the one installed below the home
directory, else one on the search path. -/
def findExecutable (settings : Settings) (agent : Agent) : Work σ (Option String) := do
  match settings.binary? agent with
  | some binary => pure (some binary)
  | none =>
    let host ← get
    let installed := { host.home with names := host.home.names ++ agent.installedNames }
    if host.files.isExecutable installed then pure (some installed.toString)
    else search agent.program

/-- Runs a command of `program` behind the guard. -/
def runCommand (runner : Command.Runner) (program : String) (command : List String) :
    Work σ Command.Outcome := do
  let host ← get
  let (records, command) := runner.wrap (host.locateGuard host.files) command
  note (records ++ [runner.spawning program command])
  let (spawned, host) := (← get).spawn command
  set host
  match spawned with
  | .completed outcome =>
    note [Command.exitRecord program outcome]
    pure outcome
  | .refused error =>
    note [Command.refusalRecord program error]
    fail (.spawnFailed program error.reason)
  | .broke fault => throw (.broke fault)

/-- Does work with the output file of an agent, if it uses one. The file is removed when the work
has ended in any way. -/
def withOutputFile (agent : Agent) (work : Option File.Path → Work σ α) : Work σ α :=
  match agent with
  | .gemini => work none
  | .codex => fun host ↦
    match host.allocate with
    | (.error refusal, host) => (.error (.failed (.outputFileRefused refusal.reason)), host)
    | (.ok path, host) =>
      let (outcome, host) := work (some path) host
      (outcome, host.release path)

/-- The reply of an agent after a successful run. -/
def readReply (agent : Agent) (path : Option File.Path) (outcome : Command.Outcome) :
    Work σ String := do
  match agent with
  | .gemini => settle ([], Channel.outputReply outcome)
  | .codex =>
    match path with
    | none => settle (Channel.fileReply none outcome)
    | some path =>
      let content ← orBreak (Fault.apart ((← get).files.read path))
      settle (Channel.fileReply (some (path.toString, content)) outcome)

def record (template : String) (arguments : List String) : Log.Record :=
  { level := Log.debug, source := "llmdesk.ai.completion", template, arguments }

/-- One completion. -/
def complete (settings : Settings) (provider : Provider) (prompt : String) : Work σ String := do
  if prompt.isEmpty then fail .missingPrompt
  let agent ← match (settings.resolve provider).build with
    | .ok agent => pure agent
    | .error failure => fail failure
  let binary := (← findExecutable settings agent).getD ""
  if binary.isEmpty then fail (.executableMissing agent)
  note [record "Running %s completion via %s (prompt=%s chars)"
    [agent.program, binary, toString prompt.length]]
  let reply ← withOutputFile agent fun path ↦ do
    let shownPath := (path.map (·.toString)).getD ""
    let outcome ← runCommand (.ofSeconds settings.timeoutSeconds) agent.program
      (agent.command settings.bypassApprovals binary prompt shownPath)
    settle (Command.checkExit agent.program outcome)
    readReply agent path outcome
  note [record "%s returned %s chars" [agent.program, toString reply.length]]
  pure reply

end Work

/-! ### The service -/

structure Service (σ : Type) where
  settings : Settings
  host : Host σ
  lastError : Option String := none

namespace Service

variable {σ : Type}

/-- One completion of the service, which does not touch the error channel. -/
def attempt (service : Service σ) (provider : Provider) (prompt : String) :
    Except Stop String × Service σ :=
  let (outcome, host) := Work.complete service.settings provider prompt service.host
  (outcome, { service with host })

/-- A completion that reports a failure in the error channel. -/
def complete (service : Service σ) (provider : Provider) (prompt : String) :
    Except Stop String × Service σ :=
  match service.attempt provider prompt with
  | (.ok reply, service) => (.ok reply, { service with lastError := none })
  | (.error (.failed failure), service) =>
    (.error (.failed failure), { service with lastError := some failure.message })
  | (.error (.broke fault), service) => (.error (.broke fault), service)

/-- A completion that returns a result. -/
def completeWithError (service : Service σ) (provider : Provider) (prompt : String) :
    Except Fault Result × Service σ :=
  match service.attempt provider prompt with
  | (.ok reply, service) => (Result.success reply, service)
  | (.error (.failed failure), service) => (.ok (.ofFailure failure), service)
  | (.error (.broke fault), service) => (.error fault, service)

def clearError (service : Service σ) : Service σ := { service with lastError := none }

end Service

end DeskAssistant.Completion
