import DeskAssistant.Provider
import DeskAssistant.Text.Integer
import DeskAssistant.Command.Outcome
import DeskAssistant.Log.Record

/-!
# Settings

How agents are found and run is set in the environment. `Settings.ofEnvironment` reads it, with a
warning for each value that it cannot use. The time limit lies between one second and one hour.
-/

set_option autoImplicit false
set_option relaxedAutoImplicit false

namespace DeskAssistant

/-- The values of the environment's variables. -/
abbrev Environment := List (String × String)

namespace Environment

def get? (environment : Environment) (name : String) : Option String := environment.lookup name

/-- A switch is on when its variable has one of five values, in any case and with space around it.
A variable that is not set leaves the switch at its default. -/
def isSwitchedOn (value : Option String) (default : Bool) : Bool :=
  match value with
  | none => default
  | some text =>
    ["1", "true", "yes", "on", "debug"].contains (Text.lowercase (Text.strip text))

/-- A variable that is neither empty nor `0`. -/
def isEnabled (value : Option String) : Bool :=
  match value with
  | none => false
  | some text => !text.isEmpty && text != "0"

end Environment

structure Settings where
  defaultProvider : String := "codex"
  codexBinary : Option String := none
  geminiBinary : Option String := none
  timeoutSeconds : Int := 300
  bypassApprovals : Bool := false
  deriving Repr, DecidableEq

namespace Settings

/-! ### Variables -/

def providerVariable : String := "LLMDESK_LLM_PROVIDER"

/-- The variables that let an agent run without approvals and sandbox. -/
def bypassVariables : List String := ["LLMDESK_LLM_UNSAFE", "LLMDESK_CODEX_DANGEROUS"]

def warn (template : String) (arguments : List String) : Log.Record :=
  { level := Log.warning, source := "llmdesk.services.settings", template, arguments }

/-! ### The time limit -/

def defaultTimeout : Int := 300

/-- A number of seconds within the limits. -/
def clamp (seconds : Int) : Int := max 1 (min 3600 seconds)

/-- The time limit that a text sets: the default for a blank text, and, with a warning, for one
that is no integer. -/
def timeout (text : Option String) : List Log.Record × Int :=
  match text with
  | none => ([], defaultTimeout)
  | some text =>
    if (Text.stripSpace text.toList).isEmpty then ([], defaultTimeout)
    else
      match Text.parseInteger text.toList with
      | some seconds => ([], clamp seconds)
      | none =>
        ([warn "Environment override %s=%s is not a valid integer"
          [Command.timeoutVariable, text]], defaultTimeout)

/-! ### The provider -/

/-- The agent that a text selects by default, with a warning for an unknown one. -/
def defaultAgent (text : Option String) : List Log.Record × String :=
  let selector := Text.lowercase (Text.strip (text.getD ""))
  if selector = "codex" || selector = "gemini" then ([], selector)
  else if selector.isEmpty || selector = "none" then ([], "codex")
  else
    ([warn "Unknown %s=%s (expected codex|gemini); using %s"
      [providerVariable, selector, "codex"]], "codex")

/-! ### All settings -/

/-- The value of a variable that is set and not empty. -/
def nonEmpty? (value : Option String) : Option String := value.filter (fun text ↦ !text.isEmpty)

/-- The settings of an environment, and the warnings about it. -/
def ofEnvironment (environment : Environment) : List Log.Record × Settings :=
  let (providerRecords, defaultProvider) := defaultAgent (environment.get? providerVariable)
  let (timeoutRecords, timeoutSeconds) := timeout (environment.get? Command.timeoutVariable)
  let bypassApprovals :=
    bypassVariables.any (fun name ↦ Environment.isEnabled (environment.get? name))
  let bypassRecords :=
    if bypassApprovals then
      [warn "Codex danger mode enabled: approvals and sandbox are bypassed" []]
    else []
  (providerRecords ++ timeoutRecords ++ bypassRecords,
    { defaultProvider
      codexBinary := nonEmpty? (environment.get? Agent.codex.binaryVariable)
      geminiBinary := nonEmpty? (environment.get? Agent.gemini.binaryVariable)
      timeoutSeconds
      bypassApprovals })

/-- The executable that is set for an agent. -/
def binary? (settings : Settings) : Agent → Option String
  | .codex => nonEmpty? settings.codexBinary
  | .gemini => nonEmpty? settings.geminiBinary

/-- The agent to use where none was asked for. A setting that selects none means the first. -/
def defaultProviderKind (settings : Settings) : Provider :=
  match Provider.parse? settings.defaultProvider with
  | some .gemini => .gemini
  | _ => .codex

/-- A provider with the default replaced by the agent it stands for. -/
def resolve (settings : Settings) (provider : Provider) : Provider :=
  if provider = .default then settings.defaultProviderKind else provider

end Settings

end DeskAssistant
