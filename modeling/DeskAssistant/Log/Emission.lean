import DeskAssistant.Log.Setup

/-!
# Writing records

A record is handled when it is at or above the level of its source, and a handler writes it when it
is at or above the handler's own. The log file grows up to a limit: a line that would reach it goes
to a new file, and the three files before that one are kept as numbered backups. A log file that is
removed while it is open takes the lines with it until it reaches the limit. Without any handler,
warnings and worse go to the error stream as they are.
-/

set_option autoImplicit false
set_option relaxedAutoImplicit false

namespace DeskAssistant.Log

/-! ### Lines -/

/-- A name filled up with spaces to the width of the longest level. -/
def padded (name : String) : String :=
  name ++ String.ofList (List.replicate (8 - name.length) ' ')

/-- The name of a record's source as the log file shows it; the source without a name is the
root. -/
def Record.shownSource (record : Record) : String :=
  if record.source.isEmpty then "root" else record.source

/-- The line of a record in the log file. `thread` is the name of the user interface's thread. -/
def Record.fileLine (time thread : String) (record : Record) : String :=
  String.intercalate " | " [time, padded (levelName record.level), record.thread.getD thread,
    record.shownSource, record.message]

/-- The line of a record on the error stream. -/
def Record.errorLine (record : Record) : String :=
  "llmdesk: " ++ levelName record.level ++ ": " ++ record.message

/-! ### The log file -/

namespace LogFile

/-- The size that a log file does not reach. -/
def sizeLimit : Nat := 1000000

/-- The number of backups that are kept. -/
def backups : Nat := 3

/-- The place of a backup of the file at `place`; the first is the youngest. -/
def backup (place : File.Path) (number : Nat) : File.Path :=
  place.parent.child (place.name ++ "." ++ toString number)

/-- What stands at `source` in place of what stood at `target`. A missing file moves nothing. -/
def move (source target : File.Path) (files : File.Store) : File.Store :=
  if (files.find? source).isSome then files.relocate source target else files

/-- Makes each backup the next older one, the log file the youngest, and begins a new log file. -/
def rotate (place : File.Path) (files : File.Store) : File.Store :=
  let shifted := (List.range (backups - 1)).foldr (fun older files ↦
    move (backup place (older + 1)) (backup place (older + 2)) files) files
  (move place (backup place 1) shifted).put place (.file .empty false)

/-- The size of the file at a place. -/
def size (place : File.Path) (files : File.Store) : Nat :=
  match files.find? place with
  | some (.file content _) => content.size
  | _ => 0

/-- Writes a line behind an open log file. The limit counts the bytes of the file and the characters
of the line. No new file is begun while a directory stands at its place. -/
def write (file : OpenFile) (line : String) (files : File.Store) : OpenFile × File.Store :=
  let place := File.Path.rooted file.path.names
  let bytes := (line ++ "\n").toUTF8
  let put := fun files ↦ ((files.append place bytes).toOption).getD files
  let reached := sizeLimit ≤ file.removedSize.getD (size place files) + line.length + 1
  if reached && !files.isDirectory place then (⟨file.path, none⟩, put (rotate place files))
  else
    match file.removedSize with
    | some size => (⟨file.path, some (size + bytes.size)⟩, files)
    | none => (file, put files)

end LogFile

/-! ### Handling -/

/-- What one handler does with a record: the handler and the files afterwards, and what the error
stream gets. -/
def Handler.write (handler : Handler) (time thread : String) (record : Record)
    (files : File.Store) : Handler × File.Store × String :=
  if record.level < handler.level then (handler, files, "")
  else
    match handler.sink with
    | .file file =>
      let (file, files) := LogFile.write file (record.fileLine time thread) files
      ({ handler with sink := .file file }, files, "")
    | .errorStream => (handler, files, record.errorLine ++ "\n")

/-- The handler when the file at a path, which had this size, is removed. -/
def Handler.afterRemoval (path : File.Path) (size : Nat) (handler : Handler) : Handler :=
  if handler.sink = .file ⟨path, none⟩ then { handler with sink := .file ⟨path, some size⟩ }
  else handler

/-- Lets handlers in order write a record. -/
def Handler.writeAll (time thread : String) (record : Record) :
    List Handler → File.Store → List Handler × File.Store × String
  | [], files => ([], files, "")
  | handler :: others, files =>
    let (handler, files, text) := handler.write time thread record files
    let (others, files, more) := writeAll time thread record others files
    (handler :: others, files, text ++ more)

/-- The libraries of the event loop. -/
def librarySources : List String := ["asyncio", "qasync"]

/-- A source is the library of this name or a part of it. -/
def isPartOf (library source : String) : Bool :=
  source = library || (library ++ ".").isPrefixOf source

namespace Logging

/-- The least level at which records of a source are handled. -/
def levelOf (logging : Logging) (source : String) : Int :=
  if logging.libraryLevel ≠ 0 && librarySources.any (isPartOf · source) then logging.libraryLevel
  else logging.level

def handles (logging : Logging) (record : Record) : Bool :=
  0 < record.level && logging.levelOf record.source ≤ record.level

/-- Handles a record at a time: the logging and the files afterwards, and what the error stream
gets. `thread` is the name of the user interface's thread. -/
def emit (logging : Logging) (time thread : String) (record : Record) (files : File.Store) :
    Logging × File.Store × String :=
  if !logging.handles record then (logging, files, "")
  else if logging.handlers.isEmpty then
    (logging, files, if warning ≤ record.level then record.message ++ "\n" else "")
  else
    let (handlers, files, text) :=
      Handler.writeAll time thread record logging.handlers files
    ({ logging with handlers }, files, text)

/-- Handles records in order. -/
def emitAll (logging : Logging) (time thread : String) (records : List Record)
    (files : File.Store) : Logging × File.Store × String :=
  records.foldl (fun (logging, files, text) record ↦
    let (logging, files, more) := logging.emit time thread record files
    (logging, files, text ++ more)) (logging, files, "")

/-- The logging when the file at a path, which had this size, is removed. -/
def afterRemoval (logging : Logging) (path : File.Path) (size : Nat) : Logging :=
  { logging with handlers := logging.handlers.map (Handler.afterRemoval path size) }

end Logging

end DeskAssistant.Log
