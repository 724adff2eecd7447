import DeskAssistant.CommandLine.Word
import DeskAssistant.Fault
import DeskAssistant.File.Path
import DeskAssistant.Prompt

/-!
# Arguments

What a command line asks for. `Arguments.read` takes the words in order: of an option that is given
twice the last one counts, and a value that is not attached is the argument that follows. A setting
whose value is the terminator is emptied: it is given, but it has no value. Words that belong to no
option are refused once all others have been taken.
-/

set_option autoImplicit false
set_option relaxedAutoImplicit false

namespace DeskAssistant

/-- What a command line says about a setting. -/
inductive Given (α : Type) where
  | absent
  /-- The setting is given without a value. -/
  | emptied
  | present (value : α)
  deriving Repr, DecidableEq

namespace Given

variable {α β : Type}

def value? : Given α → Option α
  | present value => some value
  | absent | emptied => none

def isAbsent : Given α → Bool
  | absent => true
  | emptied | present _ => false

def map (f : α → β) : Given α → Given β
  | absent => absent
  | emptied => emptied
  | present value => present (f value)

/-- What the value of a setting says. -/
def ofText (text : String) : Given String :=
  if text = CommandLine.terminator then emptied else present text

end Given

structure Arguments where
  /-- The question to answer without a panel. -/
  ask : Given String := .absent
  provider : Given String := .absent
  noTools : Bool := false
  includeDataset : Bool := false
  includeLastError : Bool := false
  includeScript : Bool := false
  settingsPath : Given String := .absent
  contextFile : ContextField → Given File.Path := fun _ ↦ .absent

namespace Arguments

open CommandLine

/-- The options of the prompt. -/
def options (arguments : Arguments) : Prompt.Options where
  includeDataset := arguments.includeDataset
  includeLastError := arguments.includeLastError
  includeScript := arguments.includeScript
  toolsEnabled := !arguments.noTools

/-- The question to answer without a panel; an emptied one is blank. -/
def question? (arguments : Arguments) : Option String :=
  if arguments.ask.isAbsent then none else some (arguments.ask.value?.getD "")

/-- The text that selects the provider. -/
def providerText (arguments : Arguments) : String := arguments.provider.value?.getD ""

/-- Where the context is read. An emptied file is none that can be read. -/
def contextPlaces (arguments : Arguments) (field : ContextField) :
    Option (Except Fault File.Path) :=
  match arguments.contextFile field with
  | .absent => none
  | .emptied => some (.error .noPath)
  | .present path => some (.ok path)

def turnOn (arguments : Arguments) : Switch → Arguments
  | .noTools => { arguments with noTools := true }
  | .includeDataset => { arguments with includeDataset := true }
  | .includeLastError => { arguments with includeLastError := true }
  | .includeScript => { arguments with includeScript := true }

/-- The arguments with the value of a setting. -/
def assign (arguments : Arguments) (setting : Setting) (value : String) : Arguments :=
  let given := Given.ofText value
  match setting with
  | .ask => { arguments with ask := given }
  | .provider => { arguments with provider := given }
  | .settingsPath => { arguments with settingsPath := given }
  | .contextFile field =>
    { arguments with
      contextFile := fun other ↦
        if other = field then given.map File.Path.ofString else arguments.contextFile other }

/-- Why a command line is not carried out: it asks for help, or it is refused. -/
inductive Ending where
  | help
  | refused (refusal : Refusal)
  deriving Repr, DecidableEq

namespace Ending

/-- The exit status of the program. -/
def status : Ending → Nat
  | help => 0
  | refused _ => 2

/-- What the program writes to its error stream. -/
def errorOutput : Ending → String
  | help => ""
  | refused refusal => "llmdesk: error: " ++ refusal.message ++ "\n"

end Ending

/-- Takes words in order; `leftover` holds those that belong to no option. -/
def take (arguments : Arguments) (leftover : List String) :
    List Word → Except Ending Arguments
  | [] =>
    if leftover.isEmpty then .ok arguments else .error (.refused (.unrecognized leftover))
  | .argument text :: rest | .unknown text :: rest => arguments.take (leftover ++ [text]) rest
  | .terminator :: rest => arguments.take (leftover ++ [terminator]) rest
  | .option .help none :: _ => .error .help
  | .option (.switch switch) none :: rest => (arguments.turnOn switch).take leftover rest
  | .option (.setting setting) (some value) :: rest =>
    (arguments.assign setting value).take leftover rest
  | .option (.setting setting) none :: .argument value :: rest =>
    (arguments.assign setting value).take leftover rest
  | .option (.setting setting) none :: _ => .error (.refused (.valueMissing (.setting setting)))
  | .option directive (some value) :: _ => .error (.refused (.valueIgnored directive value))

/-- The arguments in the texts of a command line. -/
def read (texts : List String) : Except Ending Arguments :=
  match Word.ofTexts texts with
  | .error refusal => .error (.refused refusal)
  | .ok words => take {} [] words

end Arguments

end DeskAssistant
