import DeskAssistant.Context.Snapshot
import DeskAssistant.File.Store
import DeskAssistant.Text.Line
import DeskAssistant.Text.Utf8

/-!
# Context from files

A context can be given as a text file for each field. The files are read in the order of the
fields, up to the first that cannot be read; a field without a file is missing.
-/

set_option autoImplicit false
set_option relaxedAutoImplicit false

namespace DeskAssistant.ContextFiles

/-- Where each field is read: at a path, or nowhere because what was given is a fault. -/
abbrev Places := ContextField → Option (Except Fault File.Path)

/-- The text of a file; invalid UTF-8 is replaced and line ends are unified. -/
def readText (files : File.Store) (path : File.Path) : Except Fault String :=
  (files.read path).map (fun bytes ↦ Text.unifyLineEnds (Text.Utf8.decodeLossy bytes))

/-- The texts read for a list of fields. -/
def readFields (files : File.Store) (places : Places) :
    List ContextField → Except Fault (List (ContextField × String))
  | [] => .ok []
  | field :: rest =>
    match places field with
    | none => readFields files places rest
    | some place => do
      let text ← readText files (← place)
      let others ← readFields files places rest
      pure ((field, text) :: others)

/-- The texts of the files at `places`, or the fault of the first that cannot be read. -/
def read (files : File.Store) (places : Places) :
    Except Fault (ContextField → Option String) :=
  (readFields files places ContextField.all).map (fun texts field ↦ texts.lookup field)

end DeskAssistant.ContextFiles
