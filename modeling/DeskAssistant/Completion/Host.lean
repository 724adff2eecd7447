import DeskAssistant.Command.Runner
import DeskAssistant.File.Change

/-!
# The host of a completion

What a completion needs of the machine: its files, the search for programs, the files that agents
write their replies to, and what happens when a command is started. Everything an agent does is in
the function `start`, over a state of its own. The host also keeps what was done: the commands that
were started, the names that were searched for, and the records.
-/

set_option autoImplicit false
set_option relaxedAutoImplicit false

namespace DeskAssistant.Completion

structure Host (σ : Type) where
  files : File.Store := {}
  home : File.Path := .ofString ""
  /-- Finds a program on the search path. -/
  locate : File.Store → String → Option String := fun _ _ ↦ none
  /-- Finds the program that guards commands. -/
  locateGuard : File.Store → Option String := fun _ ↦ none
  /-- Why no output file can be made, if none can. -/
  outputRefusal : Option File.OsError := none
  /-- The names that output files are given; each new one takes the first that is free. -/
  outputName : Nat → String
  /-- The state of the agents. -/
  agents : σ
  /-- What starting a command leads to. -/
  start : List String → σ → File.Store → Command.Spawned × σ × File.Store
  spawned : List (List String) := []
  searched : List String := []
  records : List Log.Record := []

namespace Host

variable {σ : Type}

def note (host : Host σ) (records : List Log.Record) : Host σ :=
  { host with records := host.records ++ records }

/-- Searches for a program, and remembers that it was searched for. -/
def search (host : Host σ) (program : String) : Option String × Host σ :=
  (host.locate host.files program, { host with searched := host.searched ++ [program] })

/-- Starts a command. -/
def spawn (host : Host σ) (command : List String) : Command.Spawned × Host σ :=
  let (spawned, agents, files) := host.start command host.agents host.files
  (spawned, { host with agents, files, spawned := host.spawned ++ [command] })

/-! ### Output files -/

/-- The first number from `number` on whose name is free; after `fuel` taken names the search ends
with the next number. -/
def freeNumber (host : Host σ) : Nat → Nat → Nat
  | 0, number => number
  | fuel + 1, number =>
    if (host.files.find? (.ofString (host.outputName number))).isNone then number
    else freeNumber host fuel (number + 1)

/-- Makes an empty output file. -/
def allocate (host : Host σ) : Except File.OsError File.Path × Host σ :=
  match host.outputRefusal with
  | some refusal => (.error refusal, host)
  | none =>
    let path := File.Path.ofString
      (host.outputName (host.freeNumber host.files.entries.length 0))
    (.ok path, { host with files := host.files.put path (.file .empty false) })

/-- Removes an output file; a directory in its place stays, which is noted. -/
def release (host : Host σ) (path : File.Path) : Host σ :=
  if host.files.isDirectory path then
    host.note [{
      level := Log.debug
      source := "llmdesk.ai.providers"
      template := "Unable to remove codex output file %s"
      arguments := [path.toString] }]
  else { host with files := host.files.unlink path }

end Host

end DeskAssistant.Completion
