/-!
# Log records

A record has a numeric level, the name of its source, a template with the texts that go into it,
and the thread that it comes from. `Record.message` is the finished text: each placeholder takes the
next argument, and a template without arguments is the message as it stands.
-/

set_option autoImplicit false
set_option relaxedAutoImplicit false

namespace DeskAssistant.Log

/-! ### Levels -/

/-- The five levels that have names, by their numbers. -/
def debug : Int := 10

def info : Int := 20

def warning : Int := 30

def error : Int := 40

def critical : Int := 50

/-- The name of a level; a number without a name is shown as itself. -/
def levelName (level : Int) : String :=
  if level = 0 then "NOTSET"
  else if level = debug then "DEBUG"
  else if level = info then "INFO"
  else if level = warning then "WARNING"
  else if level = error then "ERROR"
  else if level = critical then "CRITICAL"
  else "Level " ++ toString level

/-! ### Records -/

/-- A truth value as it is written out. -/
def shownTruth (value : Bool) : String := if value then "True" else "False"

/-- A message of a part of the program, its source. -/
structure Record where
  level : Int
  source : String
  template : String
  arguments : List String := []
  /-- The name of a thread other than the one of the user interface. -/
  thread : Option String := none
  deriving Repr, DecidableEq

/-- The record as it comes from a thread of this name. -/
def Record.on (thread : String) (record : Record) : Record := { record with thread := some thread }

/-- A template with each placeholder replaced by the next argument. -/
def fill : List Char → List String → List Char
  | '%' :: kind :: rest, argument :: arguments =>
    if kind = 's' then argument.toList ++ fill rest arguments
    else '%' :: fill (kind :: rest) (argument :: arguments)
  | c :: rest, arguments => c :: fill rest arguments
  | [], _ => []

/-- The finished text of a record. -/
def Record.message (record : Record) : String :=
  if record.arguments.isEmpty then record.template
  else String.ofList (fill record.template.toList record.arguments)

end DeskAssistant.Log
