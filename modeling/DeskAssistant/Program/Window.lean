import DeskAssistant.CommandLine.Arguments
import DeskAssistant.Context.Files
import DeskAssistant.Panel.Surface
import DeskAssistant.Preferences.File
import DeskAssistant.Program.Basic

/-!
# The window

Without a question on the command line the program shows its panel in a window. Opening it loads
the preferences, makes the application and the panel, reads the context and shows a session; each of
these can fail. What the user does in the window and what the toolkit reports is logged as it
happens.
-/

set_option autoImplicit false
set_option relaxedAutoImplicit false

namespace DeskAssistant

/-- What the program finds installed for its window. -/
structure Toolkit where
  hasWidgets : Bool := true
  hasEventLoop : Bool := true
  checkBox : CheckBox := .strict

structure Window (σ : Type) where
  around : Surroundings (Program σ)
  surface : Surface (Program σ)

variable {σ : Type}

/-- A step of opening a window. The program is kept when it fails. -/
abbrev Opening (σ α : Type) := ExceptT Fault (StateM (Program σ)) α

/-- The environment variable that holds the path of the preferences file. -/
def Program.preferencesVariable : String := "LLMDESK_SETTINGS_PATH"

/-- The program's preferences file: the one of the command line, else the one of the environment,
else its own. -/
def Program.preferencesFile (program : Program σ) (arguments : Arguments) :
    Except Fault PreferencesFile := do
  let given := (Settings.nonEmpty? arguments.settingsPath.value?).orElse fun _ ↦
    Settings.nonEmpty? (program.environment.get? Program.preferencesVariable)
  match given with
  | some text => pure ⟨← program.expand text⟩
  | none => pure ⟨program.ownDirectory.child "settings.json"⟩

namespace Opening

def settle {α : Type} (outcome : Except Fault α) : Opening σ α :=
  match outcome with
  | .ok value => pure value
  | .error fault => throw fault

theorem settle_apply {α : Type} (outcome : Except Fault α) (program : Program σ) :
    (settle outcome : Opening σ α) program = (outcome, program) := by
  cases outcome <;> rfl

def log (records : List Log.Record) : Opening σ Unit := modify (·.log records)

/-- The preferences in a file, with the agent of the command line if there is one. -/
def preferences (file : PreferencesFile) (provider : Provider) : Opening σ Preferences := do
  let (records, loaded) := file.load (← get).host.files
  log records
  let preferences ← settle loaded
  pure (if provider = .default then preferences else { preferences with provider := provider.name })

/-- The variable that makes the toolkit scale its widgets. -/
def scalingVariable : String := "QT_ENABLE_HIGHDPI_SCALING"

/-- The application as the program names it. -/
def named : Application := ⟨"llmdesk", "llmdesk assistant"⟩

/-- Makes the application. Widgets are scaled unless the environment says otherwise. -/
def application (toolkit : Toolkit) : Opening σ Unit := do
  if !toolkit.hasWidgets then throw .toolkitMissing
  if !toolkit.hasEventLoop then throw .eventLoopMissing
  modify fun program ↦
    { program with
      application := some named
      environment :=
        if (program.environment.get? scalingVariable).isSome then program.environment
        else (scalingVariable, "1") :: program.environment }

/-- The context in the files of the command line. -/
def context (arguments : Arguments) : Opening σ ContextSource := do
  let texts ← settle (ContextFiles.read (← get).host.files arguments.contextPlaces)
  pure (.fixed texts)

/-- The settings of the environment. -/
def settings : Opening σ Settings := do
  let (records, settings) := Settings.ofEnvironment (← get).environment
  log records
  pure settings

end Opening

namespace Window

/-- Saves preferences to the program's file. -/
def keep (file : PreferencesFile) (preferences : Preferences) (program : Program σ) :
    List Log.Record × Except Fault Unit × Program σ :=
  let (records, saved, files) := file.save preferences program.host.files
  (records, saved, program.withFiles files)

/-- Opens the window of a command line. `answers` are those that the user will give to
questions. -/
def opened (toolkit : Toolkit) (arguments : Arguments) (provider : Provider)
    (answers : List Bool) : Opening σ (Window σ) := do
  let file ← Opening.settle ((← get).preferencesFile arguments)
  let preferences ← Opening.preferences file provider
  Opening.application toolkit
  let panel ← Opening.settle (Panel.ofPreferences toolkit.checkBox preferences)
  let source ← Opening.context arguments
  let settings ← Opening.settings
  let (session, desk) := Desk.present {} { inRegistry := true, reports := false, source }
  let surface : Surface (Program σ) := { panel, desk, state := ← get, answers }
  pure
    { around := { agents := Program.agents settings, keepPreferences := keep file }
      surface := (surface.attach session).display }

/-! ### While the window is open -/

/-- The window when its surface has gone on, with the new records logged. -/
def advance (window : Window σ) (surface : Surface (Program σ)) : Window σ :=
  let entries := surface.desk.history.drop window.surface.desk.history.length
  { window with surface := { surface with state := surface.state.log (Entry.records entries) } }

/-- Waits until the session is not busy. -/
def wait (window : Window σ) : Window σ := window.advance (window.surface.settle window.around)

def logged (window : Window σ) (record : Log.Record) : Window σ :=
  { window with
    surface := { window.surface with state := window.surface.state.log [record] } }

/-- The kinds of the toolkit's messages, with the levels at which they are logged. -/
def messageLevels : List (String × Int) :=
  [("QtDebugMsg", Log.debug), ("QtInfoMsg", Log.info), ("QtWarningMsg", Log.warning),
    ("QtCriticalMsg", Log.error), ("QtFatalMsg", Log.critical)]

/-- A message of the toolkit; one of an unknown kind is logged as information. -/
def toolkitMessage (window : Window σ) (kind text : String) : Window σ :=
  window.logged
    { level := (messageLevels.lookup kind).getD Log.info, source := "PySide6", template := text }

/-- The user breaks the program off. -/
def interrupt (window : Window σ) : Window σ :=
  window.logged (Program.record Log.info "Shutdown requested by user." [])

/-- The end of the window: its session is closed, and then its loop, which is drained before. -/
def shutDown (window : Window σ) : Window σ :=
  let desk := window.surface.attached.elim window.surface.desk window.surface.desk.close
  window.advance (window.surface.follow desk.drain.closeLoop)

end Window

end DeskAssistant
