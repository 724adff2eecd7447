import DeskAssistant.Tool.Call
import DeskAssistant.Context.Snapshot
import DeskAssistant.Text.Line

/-!
# Results of tool calls

A call is resolved against a snapshot: each tool reads one field of it, and the log tool keeps the
last lines. `resultBlocks` writes the results of up to eight calls for the next prompt, each between
a header and an end line.
-/

set_option autoImplicit false
set_option relaxedAutoImplicit false

namespace DeskAssistant

namespace Tool

/-- The longest tail of the command log. -/
def tailLimit : Int := 32000

/-- The last `count` lines of a log, cut to the limit; a count that is not positive means the
default. -/
def logTail (log : String) (count : Int) : String :=
  let count := if 0 < count then count else defaultLineCount
  Text.capHead (String.ofList (Text.lastLines log.toList count.toNat)) tailLimit

/-- What a tool reads from a snapshot. -/
def value? (tool : Tool) (call : ToolCall) (snapshot : Snapshot) : Option String :=
  match tool with
  | datasetSummary => snapshot.datasetSummary
  | lastError => snapshot.lastError
  | scriptSelection => snapshot.scriptSelection
  | scriptFull => snapshot.scriptFull
  | commandLogTail => snapshot.commandLog.map (fun log ↦ logTail log call.lineCount)
  | lastModelSummary =>
    if call.style = fullStyle then snapshot.lastModelFull else snapshot.lastModelSimple

end Tool

namespace ToolCall

/-- What stands for a value that is not available. -/
def unavailable : String := "(unavailable)"

/-- The result of a call: unavailable when no tool has its name or the snapshot lacks the field. -/
def resolve (call : ToolCall) (snapshot : Snapshot) : String :=
  ((Tool.ofName? call.name).bind (fun tool ↦ tool.value? call snapshot)).getD unavailable

/-- The result of a call between its header and its end line. -/
def resultBlock (call : ToolCall) (snapshot : Snapshot) : String :=
  "--- tool:" ++ call.name ++ " ---\n" ++ Text.endLine (call.resolve snapshot) ++ "--- end ---\n"

/-- The longest text of all results together. -/
def resultLimit : Int := 40000

/-- The results of calls, in order; only the first eight are executed. -/
def resultBlocks (calls : List ToolCall) (snapshot : Snapshot) : String :=
  Text.capHead (String.join ((calls.take limit).map (·.resultBlock snapshot))) resultLimit

end ToolCall

end DeskAssistant
