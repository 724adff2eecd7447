import DeskAssistant.File.Path
import DeskAssistant.Fault

/-!
# A store of files

A store holds files and directories by their places. A place is a path with a root and without
`..`; the root, the working directory and those between them are directories of every store. A path
leads to a place: it is walked name by name, each in the directory reached so far, and a path
without a root begins in the working directory. A path that cannot be walked, like a file where a
directory is needed or a directory where a file is needed, is an error of the operating system.
-/

set_option autoImplicit false
set_option relaxedAutoImplicit false

namespace DeskAssistant.File

inductive Entry where
  | file (content : ByteArray) (executable : Bool)
  | directory

/-- Two files are the same when their bytes and their permissions are. -/
instance : DecidableEq Entry
  | .file content executable, .file content' executable' =>
    if h : content.data = content'.data ∧ executable = executable' then
      isTrue (by rw [ByteArray.ext h.1, h.2])
    else isFalse (by rintro ⟨⟩; exact h ⟨rfl, rfl⟩)
  | .directory, .directory => isTrue rfl
  | .file _ _, .directory => isFalse nofun
  | .directory, .file _ _ => isFalse nofun

/-- The entries by place; of two at the same place the first counts. -/
structure Store where
  entries : List (Path × Entry) := []
  /-- The names that lead from the root to the working directory. -/
  workingDirectory : List String := []
  /-- No system lets a name hold the character NUL. -/
  noNul : (Path.rooted workingDirectory).holdsNul = false := by
    exact DeskAssistant.File.Path.holdsNul_rooted_nil
  deriving DecidableEq

namespace Store

/-! ### Places -/

/-- The place is the root, the working directory or one between them. -/
def isFixed (store : Store) (place : Path) : Bool :=
  place.names.isPrefixOf store.workingDirectory

/-- What stands at a place. -/
def find? (store : Store) (place : Path) : Option Entry :=
  if store.isFixed place then some .directory
  else (store.entries.find? (fun item ↦ item.1 = place)).map (·.2)

def isDirectory (store : Store) (place : Path) : Bool := store.find? place = some .directory

/-- An executable file stands at a place. -/
def isExecutable (store : Store) (place : Path) : Bool :=
  match store.find? place with
  | some (.file _ executable) => executable
  | _ => false

/-! ### Walking a path -/

/-- Why a path cannot be walked down to its last name. -/
inductive Obstacle where
  | missing
  | notDirectory
  | tooLong
  deriving Repr, DecidableEq

def Obstacle.error (shown : Option String) : Obstacle → OsError
  | missing => .notFound shown
  | notDirectory => .notDirectory shown
  | tooLong => .nameTooLong shown

/-- The longest name that a directory can hold, in bytes. -/
def nameLimit : Nat := 255

/-- The length in bytes that the text of a path does not reach. -/
def pathLimit : Nat := 4096

/-- Walks down `rest` from the place `names`. The last name need not stand for anything. -/
def walk (store : Store) (names : List String) : List String → Except Obstacle (List String)
  | [] => .ok names
  | name :: rest =>
    if (store.find? (.rooted names)).isNone then .error .missing
    else if !store.isDirectory (.rooted names) then .error .notDirectory
    else if name = Path.above then store.walk names.dropLast rest
    else if nameLimit < name.utf8ByteSize then .error .tooLong
    else store.walk (names ++ [name]) rest

/-- The names that lead from the root to where the walk of a path begins. -/
def start (store : Store) (path : Path) : List String :=
  if path.root.isEmpty then store.workingDirectory else []

/-- The place that a path leads to. -/
def place? (store : Store) (path : Path) : Except Obstacle Path :=
  if pathLimit ≤ path.toString.utf8ByteSize then .error .tooLong
  else (store.walk (store.start path) path.names).map .rooted

/-- A path that begins at the root and leads where `path` does. -/
def absolute (store : Store) (path : Path) : Path :=
  if path.root.isEmpty then .rooted (store.workingDirectory ++ path.names) else path

/-- The place that a path leads to, or the fault of a path that leads nowhere. -/
def resolve (store : Store) (path : Path) : Except Fault Path :=
  if path.holdsNul then .error .embeddedNul
  else
    match store.place? path with
    | .ok place => .ok place
    | .error obstacle => .error (.os (obstacle.error (some path.toString)))

/-! ### Looking up -/

/-- A directory stands where a path leads. -/
def leadsToDirectory (store : Store) (path : Path) : Bool :=
  match store.resolve path with
  | .ok place => store.isDirectory place
  | .error _ => false

/-- Something stands where a path leads. A path that cannot be walked leads to nothing, but one
that is too long is an error. -/
def occupied (store : Store) (path : Path) : Except Fault Bool :=
  if path.holdsNul then .ok false
  else
    match store.place? path with
    | .ok place => .ok (store.find? place).isSome
    | .error .tooLong => .error (.os (.nameTooLong (some path.toString)))
    | .error _ => .ok false

/-- The content of the file at a path. -/
def read (store : Store) (path : Path) : Except Fault ByteArray := do
  match store.find? (← store.resolve path) with
  | some (.file content _) => pure content
  | some .directory => throw (.os (.isDirectory (some path.toString)))
  | none => throw (.os (.notFound (some path.toString)))

end Store

end DeskAssistant.File
