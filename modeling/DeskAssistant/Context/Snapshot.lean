import DeskAssistant.Log.Record
import DeskAssistant.Text.Cap

/-!
# Snapshots of the session's context

A job sees the session through a snapshot that is taken once, when the user asks. `Snapshot.capture`
reads the seven fields of a source in a fixed order and cuts each to its limit; a field whose
reading fails is missing from the snapshot and does not disturb the others.
-/

set_option autoImplicit false
set_option relaxedAutoImplicit false

namespace DeskAssistant

/-! ### Fields -/

/-- The fields of the context, in the order in which they are read. -/
inductive ContextField where
  | datasetSummary
  | lastError
  | scriptSelection
  | scriptFull
  | commandLog
  | lastModelSimple
  | lastModelFull
  deriving Repr, DecidableEq

namespace ContextField

def all : List ContextField :=
  [datasetSummary, lastError, scriptSelection, scriptFull, commandLog, lastModelSimple,
    lastModelFull]

/-- The name of a field. -/
def name : ContextField → String
  | datasetSummary => "dataset_summary"
  | lastError => "last_error"
  | scriptSelection => "script_selection"
  | scriptFull => "script_full"
  | commandLog => "command_log"
  | lastModelSimple => "last_model_simple"
  | lastModelFull => "last_model_full"

/-- How a field is called in a warning. -/
def label : ContextField → String
  | datasetSummary => "dataset summary"
  | lastError => "last error"
  | scriptSelection => "script selection"
  | scriptFull => "full script"
  | commandLog => "command log"
  | lastModelSimple => "model summary"
  | lastModelFull => "full model summary"

/-- The longest text of a field other than the command log. -/
def textLimit : Int := 32000

/-- The longest text of the command log. -/
def logLimit : Int := 200000

/-- Cuts the text of a field: the command log keeps its end, every other field its beginning. -/
def cap : ContextField → String → String
  | commandLog, text => Text.capTail text logLimit
  | _, text => Text.capHead text textLimit

end ContextField

/-! ### Sources -/

/-- What reading a field of a source gives; a value that is no text stands as the text that shows
it. -/
inductive Reading where
  | missing
  | text (value : String)
  | failed
  deriving Repr, DecidableEq

def Reading.text? : Reading → Option String
  | missing | failed => none
  | text value => some value

def Reading.hasFailed : Reading → Bool
  | failed => true
  | missing | text _ => false

/-- A source gives a reading for each field. -/
abbrev ContextSource := ContextField → Reading

/-- The source whose fields have fixed texts. -/
def ContextSource.fixed (texts : ContextField → Option String) : ContextSource := fun field ↦
  match texts field with
  | some value => .text value
  | none => .missing

/-! ### Snapshots -/

structure Snapshot where
  datasetSummary : Option String := none
  lastError : Option String := none
  scriptSelection : Option String := none
  scriptFull : Option String := none
  commandLog : Option String := none
  lastModelSimple : Option String := none
  lastModelFull : Option String := none
  deriving Repr, DecidableEq, Inhabited

namespace Snapshot

def ofFields (texts : ContextField → Option String) : Snapshot where
  datasetSummary := texts .datasetSummary
  lastError := texts .lastError
  scriptSelection := texts .scriptSelection
  scriptFull := texts .scriptFull
  commandLog := texts .commandLog
  lastModelSimple := texts .lastModelSimple
  lastModelFull := texts .lastModelFull

def get (snapshot : Snapshot) : ContextField → Option String
  | .datasetSummary => snapshot.datasetSummary
  | .lastError => snapshot.lastError
  | .scriptSelection => snapshot.scriptSelection
  | .scriptFull => snapshot.scriptFull
  | .commandLog => snapshot.commandLog
  | .lastModelSimple => snapshot.lastModelSimple
  | .lastModelFull => snapshot.lastModelFull

/-- The selection when it is not empty, and else the full script, with whether it is the
selection. -/
def scriptText (snapshot : Snapshot) : Option String × Bool :=
  match snapshot.scriptSelection with
  | some selection => if selection.isEmpty then (snapshot.scriptFull, false) else (selection, true)
  | none => (snapshot.scriptFull, false)

/-- The text of one field of a source, cut to its limit. -/
def captureField (source : ContextSource) (field : ContextField) : Option String :=
  (source field).text?.map field.cap

/-- The warnings of reading a source, one for each reading that has failed. -/
def warnings (source : ContextSource) : List Log.Record :=
  (ContextField.all.filter fun field ↦ (source field).hasFailed).map fun field ↦
    { level := Log.warning
      source := "llmdesk.session.snapshot"
      template := "Context source failed to provide %s"
      arguments := [field.label] }

/-- The records of taking a snapshot: the warnings and a summary. -/
def captureRecords (source : ContextSource) (snapshot : Snapshot) : List Log.Record :=
  let summary : Log.Record :=
    { level := Log.debug
      source := "llmdesk.session.snapshot"
      template := "Captured context snapshot (dataset=%s, script=%s, log=%s chars)"
      arguments :=
        [Log.shownTruth snapshot.datasetSummary.isSome, Log.shownTruth snapshot.scriptFull.isSome,
          toString (snapshot.commandLog.getD "").length] }
  warnings source ++ [summary]

/-- The snapshot of a source, and the records of taking it. -/
def capture (source : ContextSource) : List Log.Record × Snapshot :=
  let snapshot := ofFields (captureField source)
  (captureRecords source snapshot, snapshot)

end Snapshot

end DeskAssistant
