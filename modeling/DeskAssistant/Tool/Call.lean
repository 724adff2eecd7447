/-!
# Tool calls

The six read-only tools, and the calls in which a model asks for them. A call names its tool by a
text, which may be the name of no tool, and carries the two arguments that some tools look at.
-/

set_option autoImplicit false
set_option relaxedAutoImplicit false

namespace DeskAssistant

inductive Tool where
  | datasetSummary
  | lastError
  | scriptSelection
  | scriptFull
  | commandLogTail
  | lastModelSummary
  deriving Repr, DecidableEq, Inhabited

namespace Tool

def name : Tool → String
  | datasetSummary => "get_dataset_summary"
  | lastError => "get_last_error"
  | scriptSelection => "get_script_selection"
  | scriptFull => "get_script_full"
  | commandLogTail => "get_command_log_tail"
  | lastModelSummary => "get_last_model_summary"

def all : List Tool :=
  [datasetSummary, lastError, scriptSelection, scriptFull, commandLogTail, lastModelSummary]

/-- The tool with this name. -/
def ofName? (name : String) : Option Tool := all.find? (·.name = name)

/-- The number of log lines that a call asks for when it does not say. -/
def defaultLineCount : Int := 50

def defaultStyle : String := "simple"

/-- The style that asks for the long form of a summary. -/
def fullStyle : String := "full"

end Tool

structure ToolCall where
  name : String
  lineCount : Int := Tool.defaultLineCount
  style : String := Tool.defaultStyle
  deriving Repr, DecidableEq

/-- The number of calls that are accepted at once. -/
def ToolCall.limit : Nat := 8

end DeskAssistant
