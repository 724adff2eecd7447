import DeskAssistant.Preferences
import DeskAssistant.Session.Desk

/-!
# The panel

The widgets of the assistant's panel: a choice of the agent, four toggles, an editor for the
prompt, a view of the reply, three buttons and a status line. The buttons are enabled and disabled
together. `Panel.receive` is what the panel does with a notice of its session.
-/

set_option autoImplicit false
set_option relaxedAutoImplicit false

namespace DeskAssistant

inductive Button where
  | ask
  | copy
  | insert
  deriving Repr, DecidableEq

inductive Toggle where
  | includeDataset
  | includeLastError
  | includeScript
  | enableTools
  deriving Repr, DecidableEq

namespace Button

def all : List Button := [ask, copy, insert]

def name : Button → String
  | ask => "ask"
  | copy => "copy"
  | insert => "insert"

/-- The button with exactly this name. -/
def ofName? (name : String) : Option Button := all.find? (·.name = name)

def caption : Button → String
  | ask => "Ask"
  | copy => "Copy reply"
  | insert => "Insert into script"

end Button

namespace Toggle

def all : List Toggle := [includeDataset, includeLastError, includeScript, enableTools]

def name : Toggle → String
  | includeDataset => "include_dataset"
  | includeLastError => "include_last_error"
  | includeScript => "include_script"
  | enableTools => "enable_tools"

/-- The toggle with exactly this name. -/
def ofName? (name : String) : Option Toggle := all.find? (·.name = name)

def caption : Toggle → String
  | includeDataset => "Include dataset summary"
  | includeLastError => "Include last error"
  | includeScript => "Include script selection"
  | enableTools => "Enable tools (read-only)"

/-- The state of a toggle among options. -/
def get (toggle : Toggle) (options : Prompt.Options) : Bool :=
  match toggle with
  | includeDataset => options.includeDataset
  | includeLastError => options.includeLastError
  | includeScript => options.includeScript
  | enableTools => options.toolsEnabled

/-- The options with a toggle switched. -/
def set (toggle : Toggle) (value : Bool) (options : Prompt.Options) : Prompt.Options :=
  match toggle with
  | includeDataset => { options with includeDataset := value }
  | includeLastError => { options with includeLastError := value }
  | includeScript => { options with includeScript := value }
  | enableTools => { options with toolsEnabled := value }

end Toggle

/-- The agents in the order in which they are offered. -/
def Agent.all : List Agent := [codex, gemini]

/-- A kind of check box: what it makes of a value that it is to show. It shows a truth value as it
is. -/
structure CheckBox where
  shown : Json.Value → Except Fault Bool
  shown_truth (truth : Bool) : shown (.truth truth) = .ok truth

namespace CheckBox

/-- What a check box says that is given something else than a truth value. -/
def refusal : Fault :=
  .raised "'PySide6.QtWidgets.QAbstractButton.setChecked' called with wrong argument types"

/-- A check box that shows truth values only. -/
def strict : CheckBox where
  shown value :=
    match value with
    | .truth truth => .ok truth
    | _ => .error refusal
  shown_truth _ := rfl

end CheckBox

structure Panel where
  /-- The agent that is selected; none when the selection is outside the list. -/
  selected : Option Agent
  options : Prompt.Options
  prompt : String := ""
  reply : String := ""
  status : String := ""
  enabled : Bool := true
  visible : Bool := false
  deriving Repr, DecidableEq

namespace Panel

/-! ### Fixed texts -/

def title : String := "AI assistant"

/-- The width and the height of a fresh panel. -/
def size : Nat × Nat := (780, 520)

/-- What the empty editor of the prompt shows. -/
def placeholder : String := "Ask the assistant…"

/-! ### The choices of the user -/

/-- A fresh panel; an agent that is not offered means the first one. -/
def fresh (agent : String) (options : Prompt.Options) : Panel where
  selected := some ((Agent.all.find? (·.program = agent)).getD .codex)
  options

/-- A fresh panel with preferences, if its check boxes can show them. -/
def ofPreferences (checkBox : CheckBox) (preferences : Preferences) : Except Fault Panel :=
  (preferences.options checkBox.shown).map (fresh preferences.provider)

theorem exists_fresh_of_ofPreferences {checkBox : CheckBox} {preferences : Preferences}
    {panel : Panel} (h : ofPreferences checkBox preferences = .ok panel) :
    ∃ options, panel = fresh preferences.provider options := by
  unfold ofPreferences at h
  cases hoptions : preferences.options checkBox.shown with
  | error fault =>
    rw [hoptions] at h
    cases h
  | ok options =>
    rw [hoptions] at h
    exact ⟨options, (Except.ok.inj h).symm⟩

/-- The agent to ask. -/
def provider (panel : Panel) : Provider := (panel.selected.getD .codex).provider

def preferences (panel : Panel) : Preferences := .ofOptions panel.provider.name panel.options

/-- Selects the agent at an index. -/
def select (panel : Panel) (index : Int) : Panel :=
  { panel with selected := if 0 ≤ index then Agent.all[index.toNat]? else none }

/-- The index of the selected agent, or minus one. -/
def selectedIndex (panel : Panel) : Int :=
  match panel.selected with
  | some agent => Agent.all.idxOf agent
  | none => -1

/-! ### What the session shows -/

def receive (panel : Panel) : Notice → Panel
  | .busy value => { panel with enabled := !value }
  | .status text => { panel with status := text }
  | .reply text => { panel with reply := text }
  | .asked _ | .finished _ => panel

/-- The panel after the notices among the entries of a history. -/
def receiveAll (panel : Panel) (entries : List Entry) : Panel :=
  entries.foldl (fun panel entry ↦
    match entry with
    | .notice _ notice => panel.receive notice
    | .record _ => panel) panel

end Panel

end DeskAssistant
