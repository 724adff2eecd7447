import Std.Time.Format
import DeskAssistant.Program.Start

/-!
# The command line

The program on a real machine. The files that a command line needs are loaded into a store, the
program runs on it, and what it changed is written back. No widgets and no agents are installed
here: a window cannot be opened, and starting an agent is refused.
-/

set_option autoImplicit false
set_option relaxedAutoImplicit false

namespace DeskAssistant.Machine

/-- The variables that the program reads. -/
def variableNames : List String :=
  [Log.Logging.directoryVariable, Program.debugVariable, Program.preferencesVariable,
    Settings.providerVariable, Command.timeoutVariable, Agent.codex.binaryVariable,
    Agent.gemini.binaryVariable, Opening.scalingVariable] ++ Settings.bypassVariables

def environment : IO Environment := do
  let values ← variableNames.mapM fun name ↦ do
    pure ((← IO.getEnv name).map fun value ↦ (name, value))
  pure (values.filterMap id)

/-- The present time, as the log shows it. -/
def now : IO String := do
  pure ((← Std.Time.PlainDateTime.now).format "uuuu-MM-dd HH:mm:ss")

/-- The store with what stands at a path of the machine. -/
def loadEntry (files : File.Store) (path : File.Path) : IO File.Store := do
  try
    let content ← IO.FS.readBinFile path.toString
    pure (files.plant path (.file content false))
  catch
    | .inappropriateType none _ _ => pure (files.plant path .directory)
    | _ => pure files

/-- The store with what stands at a path of the machine and above it. -/
def load (files : File.Store) (path : File.Path) : IO File.Store :=
  (List.range (path.names.length + 1)).foldlM (fun files depth ↦
    loadEntry files { path with names := path.names.take depth }) files

/-- The paths that a program looks at. -/
def pathsOf (program : Program Unit) (words : List String) : List File.Path :=
  let context := match Arguments.read words with
    | .ok arguments =>
      (program.preferencesFile arguments).toOption.toList.map (·.path) ++
        ContextField.all.filterMap (fun field ↦ (arguments.contextFile field).value?)
    | .error _ => []
  let logs := match program.logDirectory with
    | .ok directory =>
      let log := Log.Logging.openedPath directory program.host.files
      directory :: log ::
        (List.range Log.LogFile.backups).map (fun older ↦ Log.LogFile.backup log (older + 1))
    | .error _ => []
  context ++ logs

/-- A store in which nothing was loaded yet. -/
def bareStore : IO File.Store := do
  let names := (File.Path.ofString (← IO.currentDir).toString).names
  if h : (File.Path.rooted names).holdsNul = false then
    pure { workingDirectory := names, noNul := h }
  else pure {}

/-- Writes back what differs between two stores. -/
def store (before after : File.Store) : IO Unit :=
  after.entries.reverse.forM fun (path, entry) ↦
    if before.find? path = some entry then pure ()
    else
      match entry with
      | .directory => IO.FS.createDirAll path.toString
      | .file content _ => IO.FS.writeBinFile path.toString content

/-- The home directories that the machine knows, by the names of their owners. -/
def homes : IO (List (String × File.Path)) := do
  let text ← try IO.FS.readFile "/etc/passwd" catch _ => pure ""
  pure ((text.splitOn "\n").filterMap fun line ↦
    match line.splitOn ":" with
    | [name, _, _, _, _, home, _] => some (name, .ofString home)
    | _ => none)

/-- The program before it has done anything. -/
def program : IO (Program Unit) := do
  let home := (← IO.getEnv "HOME").getD "/"
  let homes ← homes
  pure
    { environment := ← environment
      time := ← now
      homeOf := fun name ↦ homes.lookup name
      host :=
        { files := ← bareStore
          home := .ofString home
          outputName := fun number ↦ "/tmp/llmdesk_codex_lastmsg_" ++ toString number
          agents := ()
          start := fun _ agents files ↦
            (.refused (.numbered 38 "Function not implemented" none), agents, files) } }

/-- Runs the program with the words of a command line. -/
def run (words : List String) : IO UInt32 := do
  let program ← program
  let files ← (pathsOf program words).foldlM load program.host.files
  match (program.withFiles files).start { hasWidgets := false, hasEventLoop := false } words [] with
  | .shown _ => pure 0
  | .ended outcome program =>
    store files program.host.files
    IO.print program.output
    IO.eprint program.errorOutput
    match outcome with
    | .ok status => pure status.toUInt32
    | .error fault =>
      IO.eprintln fault.message
      pure 1

end DeskAssistant.Machine

def main (words : List String) : IO UInt32 := DeskAssistant.Machine.run words
