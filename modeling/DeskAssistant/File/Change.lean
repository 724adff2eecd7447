import DeskAssistant.File.Store

/-!
# Changing a store

Files are written, directories are made and files are moved into place, as an operating system does
it. `Action` is a change as data; `performAll` performs actions up to the first that fails and
leaves the store as it then stands.
-/

set_option autoImplicit false
set_option relaxedAutoImplicit false

namespace DeskAssistant.File.Store

/-! ### Places -/

/-- The store without what stands at a place. -/
def erase (store : Store) (place : Path) : Store :=
  { store with entries := store.entries.filter (fun item ↦ item.1 ≠ place) }

/-- The store with an entry at a place in place of what stood there. -/
def put (store : Store) (place : Path) (entry : Entry) : Store :=
  { store with entries := (place, entry) :: (store.erase place).entries }

/-- The store without what stands at a place and below it. -/
def clear (store : Store) (place : Path) : Store :=
  { store with entries := store.entries.filter (fun item ↦ !place.isWithin item.1) }

/-- The store in which what stands at `source` and below it stands at `target` instead of all that
was there. -/
def relocate (store : Store) (source target : Path) : Store where
  entries := (store.clear target).entries.map fun (place, entry) ↦
    if source.isWithin place then
      ({ target with names := target.names ++ source.namesFrom place }, entry)
    else (place, entry)
  workingDirectory := store.workingDirectory
  noNul := store.noNul

/-! ### Files -/

/-- Puts a file where a path leads, with a content that depends on the one before; a file that
exists keeps its permission. -/
def change (store : Store) (path : Path) (content : ByteArray → ByteArray) :
    Except Fault Store := do
  let place ← store.resolve path
  match store.find? place with
  | some .directory => throw (.os (.isDirectory (some path.toString)))
  | some (.file present executable) =>
    let others := store.erase place
    pure (others.put place (.file (content present) executable))
  | none => pure (store.put place (.file (content .empty) false))

/-- Writes the content of a file. -/
def write (store : Store) (path : Path) (content : ByteArray) : Except Fault Store :=
  store.change path fun _ ↦ content

/-- Writes bytes behind the content of a file, which is made when it is missing. -/
def append (store : Store) (path : Path) (bytes : ByteArray) : Except Fault Store :=
  store.change path (· ++ bytes)

/-- Moves the file at `source` to `target`, in place of a file there. The directory above cannot be
moved or replaced under that name. -/
def rename (store : Store) (source target : Path) : Except Fault Store := do
  let shown := some source.toString
  let origin ← store.resolve source
  let goal ← store.resolve target
  if source.name = Path.above || target.name = Path.above then throw (.os (.busy shown))
  match store.find? origin with
  | none => throw (.os (.notFound shown))
  | some entry =>
    if origin = goal then pure store
    else if store.isDirectory goal && entry ≠ .directory then throw (.os (.isDirectory shown))
    else pure (store.relocate origin goal)

/-- Removes the file at a place; a directory or a missing file is left as it is. -/
def unlink (store : Store) (place : Path) : Store :=
  if store.isDirectory place then store else store.erase place

/-! ### Directories -/

/-- Makes one directory. -/
def makeDirectory (store : Store) (path : Path) : Except Fault Store := do
  let place ← store.resolve path
  if (store.find? place).isSome then throw (.os (.alreadyExists (some path.toString)))
  pure (store.put place .directory)

/-- The store after an attempt to make a directory; one that exists will do. -/
def settleDirectory (store : Store) (path : Path) (made : Except Fault Store) :
    Store × Except Fault Unit :=
  match made with
  | .ok changed => (changed, .ok ())
  | .error fault =>
    (store, if store.leadsToDirectory path then .ok () else .error fault)

/-- Makes the directory whose names below `root` are given backwards, with the missing ones above
it. -/
def makeBelow (root : String) : List String → Store → Store × Except Fault Unit
  | [], store => (store, .ok ())
  | name :: others, store =>
    let path : Path := ⟨root, (name :: others).reverse⟩
    match store.makeDirectory path with
    | .error (.os (.numbered 2 _ _)) =>
      match makeBelow root others store with
      | (store, .ok ()) => store.settleDirectory path (store.makeDirectory path)
      | (store, .error fault) => (store, .error fault)
    | made => store.settleDirectory path made

/-- Makes a directory and the missing ones above it; an existing directory stays. After a fault the
directories that were made before it stay too. -/
def makeDirectories (store : Store) (path : Path) : Store × Except Fault Unit :=
  store.makeBelow path.root path.names.reverse

/-- The store with an entry where a path leads, in place of all that stood there, and with
directories above it. -/
def plant (store : Store) (path : Path) (entry : Entry) : Store :=
  let (store, _) := store.makeDirectories path.parent
  match store.resolve path with
  | .error _ => store
  | .ok place =>
    if entry = .directory && store.isDirectory place then store
    else (store.clear place).put place entry

/-! ### Actions -/

/-- A change of the store as data. -/
inductive Action where
  | makeDirectories (path : Path)
  | write (path : Path) (content : ByteArray)
  | append (path : Path) (bytes : ByteArray)
  | rename (source target : Path)

/-- The store as an outcome leaves it. -/
def settle (store : Store) : Except Fault Store → Store × Except Fault Unit
  | .ok changed => (changed, .ok ())
  | .error fault => (store, .error fault)

def perform (store : Store) : Action → Store × Except Fault Unit
  | .makeDirectories path => store.makeDirectories path
  | .write path content => store.settle (store.write path content)
  | .append path bytes => store.settle (store.append path bytes)
  | .rename source target => store.settle (store.rename source target)

/-- Performs actions in order, up to the first that fails: the store as it then stands, and the
failure. -/
def performAll (store : Store) : List Action → Store × Except Fault Unit
  | [] => (store, .ok ())
  | action :: rest =>
    match store.perform action with
    | (changed, .ok ()) => changed.performAll rest
    | (changed, .error fault) => (changed, .error fault)

end DeskAssistant.File.Store
