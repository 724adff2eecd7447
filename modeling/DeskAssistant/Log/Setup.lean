import DeskAssistant.File.Change
import DeskAssistant.Log.Record

/-!
# Setting up the log

Records go to a file and to the error stream. `Logging.setup` opens the log file in a directory,
which it makes, and adds the error stream when it is wanted or when the file cannot be opened; in
the latter case only warnings and worse are shown. Later calls change nothing unless they are
forced, and do not look at their directory. The libraries of the event loop never report less than a
warning.
-/

set_option autoImplicit false
set_option relaxedAutoImplicit false

namespace DeskAssistant.Log

/-- A log file that is open. One that was removed from its path is still written to, and then only
its size is known. -/
structure OpenFile where
  path : File.Path
  removedSize : Option Nat := none
  deriving Repr, DecidableEq

/-- Where a handler writes. -/
inductive Sink where
  | file (file : OpenFile)
  | errorStream
  deriving Repr, DecidableEq

/-- A handler writes the records that are at or above its level. -/
structure Handler where
  sink : Sink
  level : Int
  deriving Repr, DecidableEq

/-- What a call of the setup asks for. -/
structure Request where
  level : Int := info
  /-- The directory of the log file, or why there is none. -/
  directory : Except Fault File.Path
  onErrorStream : Bool := true
  isForced : Bool := false

structure Logging where
  /-- The least level of a record that is handled. -/
  level : Int := warning
  handlers : List Handler := []
  /-- The least level of the libraries of the event loop; none of their own when it is zero. -/
  libraryLevel : Int := 0
  /-- The log file of the last setup, once there was one; it has no file when it failed. -/
  configured : Option (Option File.Path) := none
  deriving Repr, DecidableEq

namespace Logging

/-- The name of the log file. -/
def fileName : String := "llmdesk.log"

/-- The environment variable that holds the directory of the log file. -/
def directoryVariable : String := "LLMDESK_LOG_DIR"

/-- The path at which the log file of a directory is opened. It begins at the root. -/
def openedPath (directory : File.Path) (files : File.Store) : File.Path :=
  (files.absolute (directory.child fileName)).collapsed

/-- Opens the log file in a directory, which is made when it is missing; so is the file, and it
stays as it is otherwise. -/
def openFile (directory : File.Path) (files : File.Store) : File.Store × Except Fault Unit :=
  files.performAll [.makeDirectories directory, .append (openedPath directory files) .empty]

/-- The line that says why the log file of a directory cannot be opened. -/
def refusalLine (directory : File.Path) (error : File.OsError) : String :=
  "llmdesk: cannot write log file " ++ (directory.child fileName).toString ++ ": " ++
    error.message ++ "\n"

/-- The handlers of a setup in which the log file was opened in a directory, or was not opened. -/
def handlersOf (request : Request) (files : File.Store) (opened : Option File.Path) :
    List Handler :=
  (opened.map fun directory ↦ ⟨.file ⟨openedPath directory files, none⟩, request.level⟩).toList ++
    (if request.onErrorStream then [⟨.errorStream, request.level⟩]
      else if opened.isSome then []
      else [⟨.errorStream, warning⟩])

/-- The logging after a setup in which the log file was opened in a directory, or was not
opened. -/
def configure (request : Request) (files : File.Store) (opened : Option File.Path) :
    Logging where
  level := request.level
  handlers := handlersOf request files opened
  libraryLevel := max warning request.level
  configured := some (opened.map (·.child fileName))

/-- The result of a setup: the log file, the logging, the files, and what was written to the error
stream. -/
structure Configured where
  path : Option File.Path
  logging : Logging
  files : File.Store
  errorOutput : String := ""

/-- A setup that is carried out. The directories that were made stay when the file cannot be
opened. -/
def setupAnew (request : Request) (files : File.Store) : Except Fault Configured := do
  let directory ← request.directory
  let (after, outcome) := openFile directory files
  (Fault.apart outcome).map fun
    | .ok () =>
      ⟨some (directory.child fileName), configure request files (some directory), after, ""⟩
    | .error error => ⟨none, configure request files none, after, refusalLine directory error⟩

/-- Sets logging up, unless it was set up before and the call is not forced. -/
def setup (logging : Logging) (request : Request) (files : File.Store) :
    Except Fault Configured :=
  match logging.configured with
  | some path =>
    if request.isForced then setupAnew request files else .ok ⟨path, logging, files, ""⟩
  | none => setupAnew request files

end Logging

end DeskAssistant.Log
