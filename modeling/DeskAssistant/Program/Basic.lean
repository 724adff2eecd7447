import DeskAssistant.Completion.Service
import DeskAssistant.Log.Emission
import DeskAssistant.Session.Work

/-!
# The running program

A program runs in an environment on the host of its agents. It keeps its log there and writes to an
output and an error stream. How its agents are found and run is set in its environment.
-/

set_option autoImplicit false
set_option relaxedAutoImplicit false

namespace DeskAssistant

/-- The graphical application, by its name and by the name that it shows. -/
structure Application where
  name : String
  displayName : String
  deriving Repr, DecidableEq

structure Program (σ : Type) where
  environment : Environment
  host : Completion.Host σ
  /-- The home directory of someone else, by name. -/
  homeOf : String → Option File.Path := fun _ ↦ none
  /-- The time that the log file shows. -/
  time : String
  logging : Log.Logging := {}
  /-- The graphical application once it was made, and with it an event loop. -/
  application : Option Application := none
  output : String := ""
  errorOutput : String := ""

namespace Program

variable {σ : Type}

/-! ### Streams and the log -/

def print (program : Program σ) (text : String) : Program σ :=
  { program with output := program.output ++ text }

def printError (program : Program σ) (text : String) : Program σ :=
  { program with errorOutput := program.errorOutput ++ text }

def hasApplication (program : Program σ) : Bool := program.application.isSome

def withFiles (program : Program σ) (files : File.Store) : Program σ :=
  { program with host := { program.host with files } }

/-- The name of the thread that the user interface runs on. -/
def mainThread : String := "MainThread"

/-- Logs records in order. -/
def log (program : Program σ) (records : List Log.Record) : Program σ :=
  let (logging, files, text) :=
    program.logging.emitAll program.time mainThread records program.host.files
  ({ program with logging }.withFiles files).printError text

def record (level : Int) (template : String) (arguments : List String) : Log.Record :=
  { level, source := "llmdesk.app", template, arguments }

/-! ### Paths -/

/-- The directory of the program's own files below the home directory. -/
def ownDirectory (program : Program σ) : File.Path := program.host.home.child ".llmdesk"

/-- The path in a text; a leading `~` stands for a home directory. The name of a person holds no
NUL. -/
def expand (program : Program σ) (text : String) : Except Fault File.Path :=
  let homes := fun name ↦ if name = "" then some program.host.home else program.homeOf name
  let path := File.Path.ofString text
  match File.Path.expandHome? homes path with
  | some expanded => .ok expanded
  | none =>
    let first : File.Path := { path with names := path.names.take 1 }
    .error (if first.holdsNul then .embeddedNul else .homeUnknown)

/-- The directory of the log file: the one that is given, else the one of the environment, else the
program's own. -/
def logDirectory (program : Program σ) (given : Option String := none) : Except Fault File.Path :=
  let chosen := (Settings.nonEmpty? given).orElse fun _ ↦
    Settings.nonEmpty? (program.environment.get? Log.Logging.directoryVariable)
  match chosen with
  | some text => program.expand text
  | none => .ok (program.ownDirectory.child "logs")

/-! ### Configuration -/

/-- The variable that makes the program log everything. -/
def debugVariable : String := "LLMDESK_DEBUG"

def logsEverything (program : Program σ) : Bool :=
  Environment.isSwitchedOn (program.environment.get? debugVariable) false

/-- Sets the program's log up. Everything that is logged is also shown on the error stream. -/
def configureLog (program : Program σ) (onErrorStream : Bool) : Except Fault (Program σ) := do
  let everything := program.logsEverything
  let level := if everything then Log.debug else Log.info
  let configured ← program.logging.setup
    { level, directory := program.logDirectory, onErrorStream := onErrorStream || everything }
    program.host.files
  let program := { program.withFiles configured.files with logging := configured.logging }
  let shownPath := (configured.path.map (·.toString)).getD "none"
  pure ((program.printError configured.errorOutput).log
    [record Log.debug "Logging configured (level=%s, file=%s)" [Log.levelName level, shownPath]])

/-! ### Agents -/

/-- The agents of the program's host. -/
def agents (settings : Settings) : Agents (Program σ) := fun _ question program ↦
  let service : Completion.Service σ :=
    { settings, host := { program.host with records := [] } }
  let (answer, service) := service.completeWithError question.provider question.prompt
  (service.host.records, answer, { program with host := { service.host with records := [] } })

end Program

end DeskAssistant
