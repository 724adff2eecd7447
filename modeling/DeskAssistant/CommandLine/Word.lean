import DeskAssistant.Context.Snapshot
import DeskAssistant.Text.DecimalDigit
import DeskAssistant.Text.Quoted
import DeskAssistant.Text.Search

/-!
# Words of a command line

A word names an option, or it is an argument. An option may be named by the beginning of its long
name as long as only one name begins so, and a value may be attached to it behind an equals sign.
A word that begins with a hyphen and names no option is unknown, unless it is a negative number or
contains a space. Behind the word `--` every word is an argument.
-/

set_option autoImplicit false
set_option relaxedAutoImplicit false

namespace DeskAssistant.CommandLine

/-! ### Options -/

/-- An option without a value. -/
inductive Switch where
  | noTools
  | includeDataset
  | includeLastError
  | includeScript
  deriving Repr, DecidableEq

/-- An option with a value. -/
inductive Setting where
  | ask
  | provider
  | settingsPath
  | contextFile (field : ContextField)
  deriving Repr, DecidableEq

inductive Directive where
  | help
  | switch (switch : Switch)
  | setting (setting : Setting)
  deriving Repr, DecidableEq

/-- The names of the options. -/
def names : List (String × Directive) :=
  [("-h", .help), ("--help", .help), ("--ask", .setting .ask), ("--provider", .setting .provider),
    ("--no-tools", .switch .noTools), ("--include-dataset", .switch .includeDataset),
    ("--include-last-error", .switch .includeLastError),
    ("--include-script", .switch .includeScript), ("--settings-path", .setting .settingsPath),
    ("--dataset-file", .setting (.contextFile .datasetSummary)),
    ("--error-file", .setting (.contextFile .lastError)),
    ("--script-file", .setting (.contextFile .scriptFull)),
    ("--selection-file", .setting (.contextFile .scriptSelection)),
    ("--log-file", .setting (.contextFile .commandLog)),
    ("--model-file", .setting (.contextFile .lastModelSimple)),
    ("--model-full-file", .setting (.contextFile .lastModelFull))]

/-- All names of an option, as messages call it. -/
def Directive.title (directive : Directive) : String :=
  String.intercalate "/" ((names.filter (fun item ↦ item.2 = directive)).map (·.1))

/-! ### Refusals -/

/-- Why a command line is refused. -/
inductive Refusal where
  | ambiguous (word : String) (names : List String)
  | valueMissing (directive : Directive)
  | valueIgnored (directive : Directive) (value : String)
  | unrecognized (words : List String)
  deriving Repr, DecidableEq

def Refusal.message : Refusal → String
  | ambiguous word names =>
    "ambiguous option: " ++ word ++ " could match " ++ String.intercalate ", " names
  | valueMissing directive => "argument " ++ directive.title ++ ": expected one argument"
  | valueIgnored directive value =>
    "argument " ++ directive.title ++ ": ignored explicit argument " ++ Text.quoted value
  | unrecognized words => "unrecognized arguments: " ++ String.intercalate " " words

/-! ### Words -/

/-- The word behind which every word is an argument. -/
def terminator : String := "--"

inductive Word where
  | argument (text : String)
  | terminator
  | option (directive : Directive) (attached : Option String)
  | unknown (text : String)
  deriving Repr, DecidableEq

/-- A word before its first equals sign, and the value behind it if there is one. -/
def splitValue (word : List Char) : List Char × Option (List Char) :=
  match word.dropWhile (· ≠ '=') with
  | [] => (word, none)
  | _ :: value => (word.takeWhile (· ≠ '='), some value)

/-- The word is a negative number in decimal digits of any script, with or without a fraction. A
line feed may end it. -/
def isNegativeNumber (word : List Char) : Bool :=
  let isDigit := fun c ↦ (Text.digitValue? c).isSome
  match word with
  | '-' :: rest =>
    let body := if rest.getLast? = some '\n' then rest.dropLast else rest
    match body.dropWhile isDigit with
    | [] => !body.isEmpty
    | '.' :: fraction => !fraction.isEmpty && fraction.all isDigit
    | _ => false
  | _ => false

/-- The value attached to the short name of help, given what stands behind the name. An equals sign
right behind it is passed over. The name may be repeated without a hyphen, and what remains behind
the last one is a value. -/
def attachedToHelp : List Char → Option String
  | [] => none
  | ['='] => some ""
  | '=' :: value | value =>
    let rest := value.dropWhile (· = 'h')
    if rest.isEmpty then none else some (String.ofList rest)

/-- A word that begins with a hyphen and names no option. -/
def Word.unnamed (text : String) : Word :=
  if isNegativeNumber text.toList || text.toList.contains ' ' then .argument text
  else .unknown text

/-- The word of a long name that need not be complete. -/
def Word.abbreviated (text : String) (name : List Char) (attached : Option String) :
    Except Refusal Word :=
  match names.filter (fun item ↦ (Text.afterStart? name item.1.toList).isSome) with
  | [] => .ok (unnamed text)
  | [(_, directive)] => .ok (.option directive attached)
  | candidates => .error (.ambiguous text (candidates.map (·.1)))

/-- The word that a text is, other than the terminator. -/
def Word.ofText (text : String) : Except Refusal Word :=
  let (name, value) := splitValue text.toList
  let attached := value.map String.ofList
  match text.toList, names.lookup (String.ofList name) with
  | '-' :: 'h' :: tail, _ => .ok (.option .help (attachedToHelp tail))
  | '-' :: _ :: _, some directive => .ok (.option directive attached)
  | '-' :: '-' :: _, none => abbreviated text name attached
  | '-' :: _ :: _, none => .ok (unnamed text)
  | _, _ => .ok (.argument text)

/-- The words of a command line. -/
def Word.ofTexts : List String → Except Refusal (List Word)
  | [] => .ok []
  | text :: rest =>
    if text = CommandLine.terminator then .ok (.terminator :: rest.map .argument)
    else do
      let word ← ofText text
      let words ← ofTexts rest
      pure (word :: words)

end DeskAssistant.CommandLine
