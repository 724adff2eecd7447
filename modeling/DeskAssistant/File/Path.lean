/-!
# Paths

A path is a root, which is empty for a relative path, and the names below it. Repeated slashes and
the name `.` do not count, and the name `..` stands for the directory above. `Path.ofString` reads a
path and `Path.toString` writes it; the path without names is written as its root, or as `.` when it
is relative.
-/

set_option autoImplicit false
set_option relaxedAutoImplicit false

namespace DeskAssistant.File

structure Path where
  root : String
  names : List String
  deriving Repr, DecidableEq, Inhabited

namespace Path

/-- The path with a root and these names below it. -/
def rooted (names : List String) : Path := ⟨"/", names⟩

/-! ### Reading and writing -/

/-- The pieces of a text between slashes. -/
def pieces : List Char → List (List Char)
  | [] => [[]]
  | c :: rest =>
    if c = '/' then [] :: pieces rest
    else
      match pieces rest with
      | [] => [[c]]
      | piece :: others => (c :: piece) :: others

/-- The root of a path: exactly two leading slashes are a root of their own. -/
def rootOf : List Char → String
  | '/' :: '/' :: '/' :: _ => "/"
  | '/' :: '/' :: _ => "//"
  | '/' :: _ => "/"
  | _ => ""

/-- A piece that is the name of something. -/
def isName (piece : List Char) : Bool := piece ≠ [] && piece ≠ ['.']

def ofString (text : String) : Path where
  root := rootOf text.toList
  names := ((pieces text.toList).filter isName).map String.ofList

def toString (path : Path) : String :=
  if path.root.isEmpty && path.names.isEmpty then "."
  else path.root ++ String.intercalate "/" path.names

/-- No path holds the character NUL, though a text may. -/
def holdsNul (path : Path) : Bool := path.names.any (fun name ↦ name.toList.contains '\x00')

theorem holdsNul_rooted_nil : (rooted []).holdsNul = false := rfl

/-! ### Parts of a path -/

/-- The name of the directory above. -/
def above : String := ".."

def parent (path : Path) : Path := { path with names := path.names.dropLast }

/-- The path of a name below `path`. -/
def child (path : Path) (name : String) : Path := { path with names := path.names ++ [name] }

/-- The last name of a path; it is empty when there is none. -/
def name (path : Path) : String := path.names.getLast?.getD ""

/-- A path is `directory` or leads from there to something below it. -/
def isWithin (directory path : Path) : Bool :=
  path.root = directory.root && directory.names.isPrefixOf path.names

/-- The names that lead from `directory` to a path within it. -/
def namesFrom (directory path : Path) : List String := path.names.drop directory.names.length

/-- The path with each name before a `..` taken away together with it, wherever the names lead. -/
def collapsed (path : Path) : Path where
  root := path.root
  names := path.names.foldl (fun names name ↦
    if name = above then names.dropLast else names ++ [name]) []

/-- A name without its suffix, which begins at the last point unless that point is the first or the
last character of the name. -/
def stem (name : List Char) : List Char :=
  match (name.reverse.dropWhile (· ≠ '.')) with
  | [] => name
  | _ :: before =>
    if before.isEmpty || name.getLast? = some '.' then name else before.reverse

/-- A path with the suffix of its last name replaced; `none` when it has no name. -/
def withSuffix? (path : Path) (suffix : String) : Option Path :=
  match path.names.getLast? with
  | none => none
  | some name =>
    some { path with
      names := path.names.dropLast ++ [String.ofList (stem name.toList) ++ suffix] }

/-- A path whose leading `~` stands for a home directory; a name behind the `~` is that of the
person whose home it is. There is no path when the home is not known. -/
def expandHome? (homes : String → Option Path) (path : Path) : Option Path :=
  match path.names with
  | name :: rest =>
    if !path.root.isEmpty || !"~".isPrefixOf name then some path
    else (homes (String.ofList (name.toList.drop 1))).map fun home ↦
      { home with names := home.names ++ rest }
  | [] => some path

end Path

end DeskAssistant.File
