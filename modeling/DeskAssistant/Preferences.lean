import DeskAssistant.Fault
import DeskAssistant.Json.Complaint
import DeskAssistant.Json.Writer
import DeskAssistant.Log.Record
import DeskAssistant.Prompt

/-!
# Preferences

What the user chose in the panel is kept between sessions: the agent to ask, and the switches of
the prompt. `Preferences.ofDocument` reads them from a JSON document and `Preferences.document`
writes them. A document without an object means the defaults, and so does a missing member; an
unknown agent means the first one. The switches are kept as they stand in the document.
-/

set_option autoImplicit false
set_option relaxedAutoImplicit false

namespace DeskAssistant

structure Preferences where
  provider : String := "codex"
  includeDataset : Json.Value := .truth true
  includeLastError : Json.Value := .truth false
  includeScript : Json.Value := .truth false
  toolsEnabled : Json.Value := .truth true
  deriving Repr, Inhabited

namespace Preferences

/-! ### Members -/

/-- The version that is written into a document. -/
def version : Int := 1

def providerKey : String := "provider"

def datasetKey : String := "include_dataset"

def lastErrorKey : String := "include_last_error"

def scriptKey : String := "include_script"

def toolsKey : String := "tools_enabled"

def versionKey : String := "version"

/-- The agent that a value names: the first one unless the value is the name of the other. -/
def knownProvider (value : Option Json.Value) : String :=
  match value with
  | some (.text units) => if units = Text.codeUnits "gemini" then "gemini" else "codex"
  | _ => "codex"

/-- The preferences in the members of an object. -/
def ofMembers (members : Json.Members) : Preferences :=
  let absent : Preferences := {}
  { provider := knownProvider (members.get? providerKey)
    includeDataset := (members.get? datasetKey).getD absent.includeDataset
    includeLastError := (members.get? lastErrorKey).getD absent.includeLastError
    includeScript := (members.get? scriptKey).getD absent.includeScript
    toolsEnabled := (members.get? toolsKey).getD absent.toolsEnabled }

def members (preferences : Preferences) : Json.Members :=
  .ofList [(providerKey, .ofString preferences.provider),
    (datasetKey, preferences.includeDataset), (lastErrorKey, preferences.includeLastError),
    (scriptKey, preferences.includeScript), (toolsKey, preferences.toolsEnabled),
    (versionKey, .integer version)]

/-! ### Documents -/

/-- The levels that a value may have when it is saved. -/
def levelLimit : Nat := 495

/-- A value has too many levels to be saved. -/
def isTooDeep (preferences : Preferences) : Bool :=
  [preferences.includeDataset, preferences.includeLastError, preferences.includeScript,
    preferences.toolsEnabled].any (fun value ↦ levelLimit < value.levels)

/-- The document that holds preferences. -/
def document (preferences : Preferences) : String := Json.write (.object preferences.members)

def record (level : Int) (template : String) (arguments : List String) : Log.Record :=
  { level, source := "llmdesk.services.settings", template, arguments }

/-- The object that a document holds, or none, with a warning, when it holds no object. `path` is
where the document stands. -/
def membersOf (path document : String) : List Log.Record × Except Fault (Option Json.Members) :=
  match Json.read document with
  | .error (.digits fault) => ([], .error (.digits fault))
  | .error (.tooDeep isObject) => ([], .error (.documentTooDeep isObject))
  | .error .malformed =>
    ([record Log.warning "Settings file %s is not valid JSON: %s"
      [path, Json.Complaint.report document]], .ok none)
  | .ok (.object members) =>
    (if ((Json.Members.get? members versionKey).getD .null).isInteger version then []
      else [record Log.debug "Settings version mismatch in %s; keeping known fields" [path]],
      .ok (some members))
  | .ok _ => ([record Log.warning "Settings file %s does not contain an object" [path]], .ok none)

/-- The preferences in a document, with the records of reading it. -/
def ofDocument (path document : String) : List Log.Record × Except Fault Preferences :=
  match membersOf path document with
  | (records, .error fault) => (records, .error fault)
  | (records, .ok none) | (records, .ok (some [])) => (records, .ok {})
  | (records, .ok (some members)) =>
    (records ++ [record Log.debug "Preferences loaded from %s" [path]], .ok (ofMembers members))

/-! ### Use -/

/-- The switches of the prompt, where `shown` says what a value shows; the first value that cannot
be shown is the reason when there are none. -/
def options (shown : Json.Value → Except Fault Bool) (preferences : Preferences) :
    Except Fault Prompt.Options := do
  let includeDataset ← shown preferences.includeDataset
  let includeLastError ← shown preferences.includeLastError
  let includeScript ← shown preferences.includeScript
  let toolsEnabled ← shown preferences.toolsEnabled
  pure { includeDataset, includeLastError, includeScript, toolsEnabled }

/-- The preferences with these switches. -/
def ofOptions (provider : String) (options : Prompt.Options) : Preferences where
  provider
  includeDataset := .truth options.includeDataset
  includeLastError := .truth options.includeLastError
  includeScript := .truth options.includeScript
  toolsEnabled := .truth options.toolsEnabled

end Preferences

end DeskAssistant
