import DeskAssistant.CommandLine.Arguments
import DeskAssistant.Context.Files
import Mathlib.Data.List.Basic

/-!
# Context files that cannot be read

The files of a context are read in the order of the fields. `ContextFiles.refusal?` says for one
field why its file cannot be read, and reading all of them fails with the first of these refusals
(`ContextFiles.read_eq_error_iff`), whatever the later fields hold. An error of the operating system
shows the path that was given for the field (`Arguments.exists_shows_of_refusal`).
-/

set_option autoImplicit false
set_option relaxedAutoImplicit false

namespace DeskAssistant

theorem Fault.map_eq_error_iff {α β : Type} {change : α → β} {outcome : Except Fault α}
    {fault : Fault} : outcome.map change = .error fault ↔ outcome = .error fault := by
  cases outcome with
  | ok value => exact ⟨nofun, nofun⟩
  | error other => simp only [Except.map, Except.error.injEq]

/-! ### Errors of the store -/

/-- An error of the operating system that shows the text of a path. -/
def File.OsError.Shows (error : File.OsError) (path : File.Path) : Prop :=
  ∃ number description, error = .numbered number description (some path.toString)

theorem File.Store.Obstacle.shows_error (obstacle : File.Store.Obstacle) (path : File.Path) :
    (obstacle.error (some path.toString)).Shows path := by
  cases obstacle <;> exact ⟨_, _, rfl⟩

theorem File.Store.shows_of_resolve {files : File.Store} {path : File.Path}
    {error : File.OsError} (h : files.resolve path = .error (.os error)) : error.Shows path := by
  unfold resolve at h
  split_ifs at h with hnul
  · cases h
  · split at h
    · cases h
    · cases h
      exact Obstacle.shows_error _ path

theorem File.Store.shows_of_read {files : File.Store} {path : File.Path} {error : File.OsError}
    (h : files.read path = .error (.os error)) : error.Shows path := by
  cases hplace : files.resolve path with
  | error fault =>
    rw [read, hplace] at h
    cases h
    exact shows_of_resolve hplace
  | ok place =>
    simp only [read, hplace, bind, Except.bind] at h
    split at h
    · cases h
    · cases h
      exact ⟨_, _, rfl⟩
    · cases h
      exact ⟨_, _, rfl⟩

namespace ContextFiles

variable {files : File.Store} {places : Places} {fault : Fault}

/-! ### The first refusal -/

/-- Why the file of a field cannot be read, if it cannot; a field without a file is not read. -/
def refusal? (files : File.Store) (places : Places) (field : ContextField) : Option Fault :=
  (places field).bind fun place ↦
    match place.bind (readText files) with
    | .ok _ => none
    | .error fault => some fault

theorem refusal?_eq_some_iff {field : ContextField} : refusal? files places field = some fault ↔
    ∃ place, places field = some place ∧ place.bind (readText files) = .error fault := by
  unfold refusal?
  rw [Option.bind_eq_some_iff]
  refine exists_congr fun place ↦ and_congr_right fun _ ↦ ?_
  cases place.bind (readText files) with
  | ok text => exact ⟨nofun, nofun⟩
  | error refused => simp only [Option.some.injEq, Except.error.injEq]

theorem readFields_eq_error_iff {fields : List ContextField} :
    readFields files places fields = .error fault ↔
      fields.findSome? (refusal? files places) = some fault := by
  induction fields with
  | nil => exact ⟨nofun, nofun⟩
  | cons field rest ih =>
    rw [List.findSome?_cons, readFields, refusal?]
    cases places field with
    | none => exact ih
    | some place =>
      change (place >>= fun path ↦ readText files path >>= fun text ↦
        readFields files places rest >>= fun others ↦ pure ((field, text) :: others)) = _ ↔ _
      rw [← bind_assoc, Option.bind_some]
      change (place.bind (readText files)).bind _ = _ ↔ _
      cases place.bind (readText files) with
      | error refused => simp only [Except.bind, Except.error.injEq, Option.some.injEq]
      | ok text =>
        rw [← ih]
        cases readFields files places rest with
        | error refused => rfl
        | ok others => exact ⟨nofun, nofun⟩

/-- The file of this field is the first, in the order of the fields, that cannot be read. -/
structure FirstRefusal (files : File.Store) (places : Places) (field : ContextField)
    (fault : Fault) : Prop where
  refusal?_eq : refusal? files places field = some fault
  exists_before : ∃ before after, ContextField.all = before ++ field :: after ∧
    ∀ other ∈ before, refusal? files places other = none

/-- Reading a context fails with the first refusal. -/
theorem read_eq_error_iff :
    read files places = .error fault ↔ ∃ field, FirstRefusal files places field fault := by
  rw [read, Fault.map_eq_error_iff, readFields_eq_error_iff, List.findSome?_eq_some_iff]
  constructor
  · rintro ⟨before, field, after, hall, hfield, hbefore⟩
    exact ⟨field, hfield, before, after, hall, hbefore⟩
  · rintro ⟨field, hfield, before, after, hall, hbefore⟩
    exact ⟨before, field, after, hall, hfield, hbefore⟩

/-- If any file cannot be read, there is a first one. -/
theorem exists_firstRefusal {field : ContextField} (h : refusal? files places field ≠ none) :
    ∃ first fault, FirstRefusal files places first fault := by
  have hall : field ∈ ContextField.all := by cases field <;> decide
  obtain ⟨fault, hfault⟩ := Option.isSome_iff_exists.mp
    (List.findSome?_isSome_iff.mpr ⟨field, hall, Option.isSome_iff_ne_none.mpr h⟩)
  obtain ⟨before, first, after, hall, hfirst, hbefore⟩ := List.findSome?_eq_some_iff.mp hfault
  exact ⟨first, fault, hfirst, before, after, hall, hbefore⟩

end ContextFiles

/-! ### The path that is shown -/

/-- An error of the operating system shows the path that was given for the field. -/
theorem Arguments.exists_shows_of_refusal {arguments : Arguments} {files : File.Store}
    {field : ContextField} {error : File.OsError}
    (h : ContextFiles.refusal? files arguments.contextPlaces field = some (.os error)) :
    ∃ path, arguments.contextFile field = .present path ∧ error.Shows path := by
  obtain ⟨place, hplace, hread⟩ := ContextFiles.refusal?_eq_some_iff.mp h
  unfold contextPlaces at hplace
  cases hgiven : arguments.contextFile field with
  | absent =>
    rw [hgiven] at hplace
    cases hplace
  | emptied =>
    rw [hgiven] at hplace
    cases hplace
    cases hread
  | present path =>
    rw [hgiven] at hplace
    cases hplace
    exact ⟨path, rfl, File.Store.shows_of_read (Fault.map_eq_error_iff.mp hread)⟩

end DeskAssistant
