import DeskAssistant.Context.Snapshot

/-!
# Prompts

The prompt of the first round is a fixed preamble, the reply schema when tools are enabled, the
user's request, and the blocks of context that the user chose to include. The prompt of the second
round is the first one with the results of the tools behind it.
-/

set_option autoImplicit false
set_option relaxedAutoImplicit false

namespace DeskAssistant.Prompt

structure Options where
  includeDataset : Bool := true
  includeLastError : Bool := false
  includeScript : Bool := false
  toolsEnabled : Bool := true
  deriving Repr, DecidableEq

/-! ### Fixed texts -/

def preamble : String :=
  "You are an assistant embedded in an econometrics desktop application. " ++
  "Be concise. If you propose code, output plain script code without Markdown fences.\n\n"

/-- The description of the reply schema and of the tools. -/
def schema : String :=
  "Return ONLY a single JSON object with this schema:\n" ++
  "\x7b\"assistant_text\": \"...\", \"proposed_insert\": \"...\", " ++
  "\"tool_calls\": [\x7b\"name\":\"...\",\"args\":\x7b...\x7d\x7d]\x7d\n" ++
  "If you do not need tools, set tool_calls to [].\n" ++
  "Available read-only tools:\n" ++
  "- get_dataset_summary\n" ++
  "- get_last_error\n" ++
  "- get_script_selection\n" ++
  "- get_script_full\n" ++
  "- get_command_log_tail (args: \x7b\"n_lines\": 50\x7d)\n" ++
  "- get_last_model_summary (args: \x7b\"style\": \"simple\"|\"full\"\x7d)\n" ++
  "Do not include Markdown fences.\n\n"

/-! ### Blocks of context -/

/-- The longest body of a block. -/
def blockLimit : Nat := 32000

/-- A text without the truncation marker at its end, and whether the marker was there. -/
def splitMarker (text : List Char) : List Char × Bool :=
  let marker := Text.truncationMarker.toList
  if text.drop (text.length - marker.length) = marker then
    (text.take (text.length - marker.length), true)
  else (text, false)

/-- A block: a title with its notes, and the text, which is cut to the limit. -/
def block (header text : String) (details : Option String) : String :=
  let (body, marked) := splitMarker text.toList
  let truncated := marked || blockLimit < body.length
  let notes := details.toList ++ (if truncated then ["truncated"] else [])
  let title := "[" ++ header ++ "]" ++
    (if notes.isEmpty then "" else " (" ++ String.intercalate "; " notes ++ ")")
  title ++ "\n" ++ Text.endLine (String.ofList (body.take blockLimit))

/-- A text that is present and not empty, or what stands in its place. -/
def orElse (text : Option String) (replacement : String) : String :=
  match text with
  | some value => if value.isEmpty then replacement else value
  | none => replacement

def datasetBlock (snapshot : Snapshot) : String :=
  block "Dataset" (orElse snapshot.datasetSummary "(no dataset loaded)") none

def lastErrorBlock (snapshot : Snapshot) : String :=
  block "Last error" (orElse snapshot.lastError "(none)") none

def scriptBlock (snapshot : Snapshot) : String :=
  match snapshot.scriptText with
  | (none, _) => block "Script" "(no active script editor)" none
  | (some text, isSelection) =>
    block "Script" text (some (if isSelection then "selection" else "full"))

/-! ### Prompts of both rounds -/

/-- The prompt of the first round. -/
def full (request : String) (snapshot : Snapshot) (options : Options) : String :=
  preamble ++ (if options.toolsEnabled then schema else "") ++
    "User request:\n" ++ request ++ "\n\n" ++
    (if options.includeDataset then datasetBlock snapshot ++ "\n" else "") ++
    (if options.includeLastError then lastErrorBlock snapshot ++ "\n" else "") ++
    (if options.includeScript then scriptBlock snapshot ++ "\n" else "")

/-- The prompt of the second round: the first one and the results of the tools. -/
def followUp (prompt results : String) : String :=
  prompt ++ "\n\nTool results:\n" ++ results ++ "\n\nNow respond using the JSON schema.\n"

end DeskAssistant.Prompt
