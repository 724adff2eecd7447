import DeskAssistant.Text.Blank
import DeskAssistant.Text.Lowercase

/-!
# Providers

A provider is one of two agents, or the choice to use the configured default. `Provider.parse?`
reads a provider in any case and with space around it; a blank text is the default. Each agent is a
program with a variable that overrides where it is found.
-/

set_option autoImplicit false
set_option relaxedAutoImplicit false

namespace DeskAssistant

inductive Provider where
  | default
  | codex
  | gemini
  deriving Repr, DecidableEq, Inhabited

/-- An agent that can be run. -/
inductive Agent where
  | codex
  | gemini
  deriving Repr, DecidableEq, Inhabited

namespace Provider

def name : Provider → String
  | default => "none"
  | codex => "codex"
  | gemini => "gemini"

def all : List Provider := [default, codex, gemini]

/-- The provider with exactly this name. -/
def ofName? (name : String) : Option Provider := all.find? (·.name = name)

/-- The provider that a text selects; `none` when there is no such provider. -/
def parse? (text : String) : Option Provider :=
  let wanted := Text.lowercase (Text.strip text)
  if wanted.isEmpty then some default else ofName? wanted

/-- The agent of a provider; the default has none of its own. -/
def agent? : Provider → Option Agent
  | default => none
  | codex => some .codex
  | gemini => some .gemini

end Provider

namespace Agent

/-- The name of the program. -/
def program : Agent → String
  | codex => "codex"
  | gemini => "gemini"

/-- The environment variable that names the executable to use. -/
def binaryVariable : Agent → String
  | codex => "LLMDESK_CODEX_BIN"
  | gemini => "LLMDESK_GEMINI_BIN"

def provider : Agent → Provider
  | codex => .codex
  | gemini => .gemini

end Agent

end DeskAssistant
