import DeskAssistant.File.Change
import DeskAssistant.Preferences
import DeskAssistant.Text.Line
import DeskAssistant.Text.Utf8

/-!
# The file of the preferences

Preferences are loaded from one file and saved to it. Saving writes the whole document to a sibling
with the suffix `.tmp` and then moves it into place, so the file is replaced in one step or not at
all.
-/

set_option autoImplicit false
set_option relaxedAutoImplicit false

namespace DeskAssistant

/-- The place of a preferences file. -/
structure PreferencesFile where
  path : File.Path
  deriving Repr, DecidableEq

namespace PreferencesFile

/-- The text of a file that has to be valid UTF-8, with its line ends unified. -/
def readText (files : File.Store) (path : File.Path) : Except Fault String :=
  match files.read path with
  | .error fault => .error fault
  | .ok bytes =>
    match Text.Utf8.decodeStrict bytes with
    | some text => .ok (Text.unifyLineEnds text)
    | none => .error (.undecodable (Text.Utf8.flaw bytes))

/-- The preferences in the file, or the defaults when there is no file. -/
def load (file : PreferencesFile) (files : File.Store) :
    List Log.Record × Except Fault Preferences :=
  match files.occupied file.path with
  | .error fault => ([], .error fault)
  | .ok false => ([], .ok {})
  | .ok true =>
    match readText files file.path with
    | .error fault => ([], .error fault)
    | .ok document => Preferences.ofDocument file.path.toString document

/-- The file that a document is written to before it is moved into place; a path without a name has
none. -/
def draft (file : PreferencesFile) : Except Fault File.Path :=
  match file.path.withSuffix? ".tmp" with
  | some path => .ok path
  | none => .error (.nameless file.path.toString)

/-- The actions that move a document into place. -/
def replacing (file : PreferencesFile) (document : String) (draft : File.Path) :
    List File.Store.Action :=
  [.write draft document.toUTF8, .rename draft file.path]

/-- Writes a document into the file, in a directory that is made when it is missing. After a fault
the files stay as the actions up to it left them. -/
def replace (file : PreferencesFile) (document : String) (files : File.Store) :
    File.Store × Except Fault Unit :=
  match files.makeDirectories file.path.parent with
  | (files, .error fault) => (files, .error fault)
  | (files, .ok ()) =>
    match file.draft with
    | .error fault => (files, .error fault)
    | .ok draft => files.performAll (file.replacing document draft)

/-- Saves preferences whose values have few enough levels. -/
def save (file : PreferencesFile) (preferences : Preferences) (files : File.Store) :
    List Log.Record × Except Fault Unit × File.Store :=
  if preferences.isTooDeep then ([], .error .valueTooDeep, files)
  else
    match file.replace preferences.document files with
    | (files, .error fault) => ([], .error fault, files)
    | (files, .ok ()) =>
      ([Preferences.record Log.debug "Preferences saved to %s" [file.path.toString]], .ok (),
        files)

end PreferencesFile

end DeskAssistant
