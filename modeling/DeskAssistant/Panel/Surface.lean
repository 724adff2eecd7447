import DeskAssistant.Panel.Widget
import DeskAssistant.Session.Work

/-!
# The panel at work

A surface is a panel together with the desk of its session, the clipboard, and the answers that the
user gives to questions. The buttons ask, copy the last reply, and insert the text to insert once
the user has confirmed it. Closing the panel closes its session and keeps the preferences.
-/

set_option autoImplicit false
set_option relaxedAutoImplicit false

namespace DeskAssistant

/-- A message box that was opened. -/
structure MessageBox where
  kind : String
  title : String
  text : String
  deriving Repr, DecidableEq

/-- What surrounds a panel, over a state of its own. -/
structure Surroundings (σ : Type) where
  agents : Agents σ
  starting : Starting := .deferred
  /-- There is a script editor to insert into. -/
  hasEditor : Bool := false
  /-- Keeps the preferences when the panel is closed. -/
  keepPreferences : Preferences → σ → List Log.Record × Except Fault Unit × σ :=
    fun _ state ↦ ([], .ok (), state)

structure Surface (σ : Type) where
  panel : Panel
  desk : Desk
  state : σ
  /-- The session that the panel knows. -/
  attached : Option Nat := none
  /-- The answers that the user will give; with none left the answer is no. -/
  answers : List Bool := []
  clipboard : String := ""
  boxes : List MessageBox := []
  inserted : List String := []

namespace Surface

variable {σ : Type}

/-- The surface with a desk that has gone on; the panel receives the new notices. -/
def follow (surface : Surface σ) (desk : Desk) : Surface σ :=
  { surface with
    desk
    panel := surface.panel.receiveAll (desk.history.drop surface.desk.history.length) }

def attachedSession (surface : Surface σ) : Option Session :=
  surface.attached.bind (fun index ↦ surface.desk.sessions[index]?)

/-! ### Buttons -/

def askClicked (around : Surroundings σ) (surface : Surface σ) : Surface σ :=
  match surface.attached with
  | none => surface
  | some session =>
    let (_, desk, state) := surface.desk.askAndStart around.agents around.starting session
      surface.panel.prompt surface.panel.options surface.panel.provider surface.state
    { surface.follow desk with state }

def copyClicked (surface : Surface σ) : Surface σ :=
  match surface.attachedSession with
  | none => surface
  | some session =>
    if session.lastReply.isEmpty then surface else { surface with clipboard := session.lastReply }

def insertTitle : String := "Insert text"

def noEditor : MessageBox :=
  ⟨"information", insertTitle, "No active script editor window was found."⟩

def confirmation : MessageBox :=
  ⟨"question", insertTitle, "Insert the assistant reply into the active script editor?"⟩

def insertClicked (around : Surroundings σ) (surface : Surface σ) : Surface σ :=
  match surface.attachedSession with
  | none => surface
  | some session =>
    if session.textToInsert.isEmpty then surface
    else if !around.hasEditor then { surface with boxes := surface.boxes ++ [noEditor] }
    else
      let confirmed := surface.answers.head?.getD false
      { surface with
        boxes := surface.boxes ++ [confirmation]
        answers := surface.answers.drop 1
        inserted :=
          if confirmed then surface.inserted ++ [session.textToInsert] else surface.inserted }

/-- Clicks a button; a disabled one does nothing. -/
def click (around : Surroundings σ) (surface : Surface σ) (button : Button) : Surface σ :=
  if !surface.panel.enabled then surface
  else
    match button with
    | .ask => surface.askClicked around
    | .copy => surface.copyClicked
    | .insert => surface.insertClicked around

/-! ### Workers and the loop -/

/-- Lets a worker do its job. -/
def work (around : Surroundings σ) (surface : Surface σ) (worker : Nat) :
    Except Fault Unit × Surface σ :=
  let (posted, desk, state) := surface.desk.work around.agents worker surface.state
  (posted, { surface.follow desk with state })

/-- Lets the worker of the active job, if there is one, do its job and delivers the result. -/
def settle (around : Surroundings σ) (surface : Surface σ) : Surface σ :=
  match surface.attachedSession.bind (·.active) with
  | none => surface
  | some worker =>
    let (_, surface) := surface.work around worker
    surface.follow surface.desk.runAll

/-- Runs the deliveries that are waiting. -/
def runLoop (surface : Surface σ) : Surface σ := surface.follow surface.desk.runAll

/-! ### Opening and closing -/

def attach (surface : Surface σ) (session : Nat) : Surface σ :=
  { surface with attached := some session }

def display (surface : Surface σ) : Surface σ :=
  { surface with panel := { surface.panel with visible := true } }

def notKept : Log.Record :=
  { level := Log.warning
    source := "llmdesk.ui.assistant_panel"
    template := "Unable to persist assistant preferences" }

/-- Closes the panel: its session is closed, its preferences are kept, and it is hidden. An error of
the operating system in keeping them is noted; any other fault leaves the panel in view. -/
def close (around : Surroundings σ) (surface : Surface σ) : Except Fault Unit × Surface σ :=
  let desk := surface.attached.elim surface.desk surface.desk.close
  let (records, kept, state) := around.keepPreferences surface.panel.preferences surface.state
  let noted := fun records ↦ { surface with desk := desk.note (records.map Entry.record), state }
  match Fault.apart kept with
  | .error fault => (.error fault, noted records)
  | .ok kept =>
    let surface := noted (records ++ if kept.isOk then [] else [notKept])
    (.ok (), { surface with panel := { surface.panel with visible := false } })

end Surface

end DeskAssistant
