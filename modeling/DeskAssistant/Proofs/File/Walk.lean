import DeskAssistant.Proofs.File.Place

/-!
# Where a path leads

A path is walked name by name, each in a directory. What can be walked leads to the same place in
every later store that keeps these directories (`KeepsDirectories.walk`), and this place stands in a
directory itself if the store is a tree. Two paths that differ in the last name lead to different
places in one directory (`walk_ne_of_beside`).
-/

set_option autoImplicit false
set_option relaxedAutoImplicit false

namespace DeskAssistant.File

namespace Store

/-- The directories of a store are directories of a later one, with the same one to work in. -/
structure KeepsDirectories (store next : Store) : Prop where
  workingDirectory_eq : next.workingDirectory = store.workingDirectory
  find?_eq : ∀ {place}, store.find? place = some .directory → next.find? place = some .directory

theorem KeepsDirectories.refl (store : Store) : store.KeepsDirectories store := ⟨rfl, id⟩

theorem KeepsDirectories.trans {store middle next : Store} (hfirst : store.KeepsDirectories middle)
    (hsecond : middle.KeepsDirectories next) : store.KeepsDirectories next :=
  ⟨hsecond.workingDirectory_eq.trans hfirst.workingDirectory_eq,
    fun hplace ↦ hsecond.find?_eq (hfirst.find?_eq hplace)⟩

theorem KeepsDirectories.start_eq {store next : Store} (hkeeps : store.KeepsDirectories next)
    (path : Path) : next.start path = store.start path := by
  rw [start, start, hkeeps.workingDirectory_eq]

/-! ### Walking -/

variable {store next : Store} {path place : Path} {name : String}
  {names first rest reached : List String}

theorem walk_append (store : Store) (names first rest : List String) :
    store.walk names (first ++ rest) =
      (store.walk names first).bind fun reached ↦ store.walk reached rest := by
  induction first generalizing names with
  | nil => rfl
  | cons name first ih =>
    rw [List.cons_append, walk, walk]
    split_ifs <;> first | rfl | exact ih _

theorem walk_append_eq_ok_iff : store.walk names (first ++ rest) = .ok reached ↔
    ∃ middle, store.walk names first = .ok middle ∧
      store.walk middle rest = .ok reached := by
  rw [walk_append]
  cases store.walk names first with
  | error obstacle => exact iff_of_false nofun nofun
  | ok middle => simp [Except.bind]

/-- A name is walked in a directory. -/
theorem walk_cons_eq_ok_iff : store.walk names (name :: rest) = .ok reached ↔
    store.find? (.rooted names) = some .directory ∧
      (name = Path.above ∧ store.walk names.dropLast rest = .ok reached ∨
        name ≠ Path.above ∧ name.utf8ByteSize ≤ nameLimit ∧
          store.walk (names ++ [name]) rest = .ok reached) := by
  rw [walk, isDirectory]
  by_cases hdirectory : store.find? (.rooted names) = some .directory
  · rw [hdirectory]
    by_cases habove : name = Path.above
    · simp [habove]
    · by_cases hlong : nameLimit < name.utf8ByteSize
      · simp [habove, hlong]
      · simp [habove, hlong, not_lt.mp hlong]
  · refine iff_of_false ?_ fun h ↦ hdirectory h.1
    cases hfound : store.find? (.rooted names) with
    | none => simp
    | some entry =>
      have hfile : entry ≠ .directory := fun h ↦ hdirectory (hfound.trans (congrArg some h))
      simp [hfile]

/-- What can be walked is walked in the same way where the directories are kept. -/
theorem KeepsDirectories.walk (hkeeps : store.KeepsDirectories next)
    (h : store.walk names rest = .ok reached) : next.walk names rest = .ok reached := by
  induction rest generalizing names with
  | nil => exact h
  | cons name rest ih =>
    rw [walk_cons_eq_ok_iff] at h ⊢
    obtain ⟨hdirectory, ⟨habove, hwalk⟩ | ⟨habove, hshort, hwalk⟩⟩ := h
    · exact ⟨hkeeps.find?_eq hdirectory, Or.inl ⟨habove, ih hwalk⟩⟩
    · exact ⟨hkeeps.find?_eq hdirectory, Or.inr ⟨habove, hshort, ih hwalk⟩⟩

/-- A path without `..` leads straight down. -/
theorem eq_append_of_walk (habove : Path.above ∉ rest)
    (h : store.walk names rest = .ok reached) : reached = names ++ rest := by
  induction rest generalizing names with
  | nil =>
    rw [List.append_nil]
    exact (Except.ok.inj h).symm
  | cons name rest ih =>
    obtain ⟨hname, hrest⟩ := not_or.mp (List.mem_cons.not.mp habove)
    obtain ⟨-, ⟨rfl, -⟩ | ⟨-, -, hwalk⟩⟩ := walk_cons_eq_ok_iff.mp h
    · exact absurd rfl hname
    · rw [ih hrest hwalk, List.append_assoc, List.singleton_append]

/-- What a path leads to stands in a directory. -/
theorem IsTree.find?_parent_of_walk (htree : store.IsTree)
    (hnames : store.find? (.rooted names.dropLast) = some .directory)
    (h : store.walk names rest = .ok reached) :
    store.find? (.rooted reached.dropLast) = some .directory := by
  induction rest generalizing names with
  | nil =>
    rw [← Except.ok.inj h]
    exact hnames
  | cons name rest ih =>
    obtain ⟨hdirectory, ⟨-, hwalk⟩ | ⟨-, -, hwalk⟩⟩ := walk_cons_eq_ok_iff.mp h
    · refine ih (htree (.rooted names.dropLast) ?_) hwalk
      rw [hnames]
      nofun
    · refine ih ?_ hwalk
      rw [List.dropLast_concat]
      exact hdirectory

/-- Where a path can be walked to its end, a directory stands wherever an initial part of it
leads. -/
theorem find?_ne_none_of_walk_append (hrest : rest ≠ [])
    (h : store.walk names (first ++ rest) ≠ .error .missing)
    (hfirst : store.walk names first = .ok reached) :
    store.find? (.rooted reached) ≠ none := by
  intro hnone
  obtain ⟨name, rest, rfl⟩ := List.exists_cons_of_ne_nil hrest
  apply h
  rw [walk_append, hfirst]
  simp [Except.bind, walk, hnone]

theorem walk_ne_missing_of_append
    (h : store.walk names (first ++ rest) ≠ .error .missing) :
    store.walk names first ≠ .error .missing := by
  intro hmissing
  apply h
  rw [walk_append, hmissing]
  rfl

/-- Why a path cannot be walked: its first name is to blame, or a later one is. -/
theorem walk_cons_error_cases {obstacle : Obstacle}
    (h : store.walk names (name :: rest) = .error obstacle) :
    obstacle = .missing ∧ store.find? (.rooted names) = none ∨ obstacle = .notDirectory ∨
      obstacle = .tooLong ∧ nameLimit < name.utf8ByteSize ∨
      name = Path.above ∧ store.walk names.dropLast rest = .error obstacle ∨
      store.walk (names ++ [name]) rest = .error obstacle := by
  rw [walk] at h
  split_ifs at h with hnone hfile habove hlong
  · exact Or.inl ⟨(Except.error.inj h).symm, Option.isNone_iff_eq_none.mp hnone⟩
  · exact Or.inr (Or.inl (Except.error.inj h).symm)
  · exact Or.inr (Or.inr (Or.inr (Or.inl ⟨habove, h⟩)))
  · exact Or.inr (Or.inr (Or.inl ⟨(Except.error.inj h).symm, hlong⟩))
  · exact Or.inr (Or.inr (Or.inr (Or.inr h)))

/-- Where a path cannot be walked for want of something, that is where some names of it lead. -/
theorem exists_of_walk_missing (h : store.walk names rest = .error .missing) :
    ∃ front behind reached, rest = front ++ behind ∧ behind ≠ [] ∧
      store.walk names front = .ok reached ∧ store.find? (.rooted reached) = none := by
  induction rest generalizing names with
  | nil => cases h
  | cons name rest ih =>
    rw [walk] at h
    split_ifs at h with hnone hfile habove hlong
    · exact ⟨[], name :: rest, names, rfl, List.cons_ne_nil _ _, rfl,
        Option.isNone_iff_eq_none.mp hnone⟩
    · cases h
    · obtain ⟨front, behind, reached, rfl, hbehind, hwalk, hreached⟩ := ih h
      refine ⟨name :: front, behind, reached, rfl, hbehind, ?_, hreached⟩
      rwa [walk, if_neg hnone, if_neg hfile, if_pos habove]
    · cases h
    · obtain ⟨front, behind, reached, rfl, hbehind, hwalk, hreached⟩ := ih h
      refine ⟨name :: front, behind, reached, rfl, hbehind, ?_, hreached⟩
      rwa [walk, if_neg hnone, if_neg hfile, if_neg habove, if_neg hlong]

theorem exists_of_walk_tooLong (h : store.walk names rest = .error .tooLong) :
    ∃ name ∈ rest, nameLimit < name.utf8ByteSize := by
  induction rest generalizing names with
  | nil => cases h
  | cons name rest ih =>
    obtain ⟨hmissing, -⟩ | hfile | ⟨-, hlong⟩ | ⟨-, hwalk⟩ | hwalk := walk_cons_error_cases h
    · cases hmissing
    · cases hfile
    · exact ⟨name, List.mem_cons_self, hlong⟩
    all_goals
      obtain ⟨long, hmem, hlong⟩ := ih hwalk
      exact ⟨long, List.mem_cons_of_mem _ hmem, hlong⟩

/-! ### Paths that differ in the last name -/

section Beside

variable {other : String} {place' : List String}

theorem walk_ne_of_beside (hother : other ≠ Path.above) (hne : name ≠ other)
    (h : store.walk names (first ++ [name]) = .ok reached)
    (h' : store.walk names (first ++ [other]) = .ok place') : reached ≠ place' := by
  obtain ⟨middle, hmiddle, hname⟩ := walk_append_eq_ok_iff.mp h
  obtain ⟨middle', hmiddle', hname'⟩ := walk_append_eq_ok_iff.mp h'
  obtain rfl := Except.ok.inj (hmiddle.symm.trans hmiddle')
  obtain ⟨-, ⟨hup, -⟩ | ⟨-, -, hdown'⟩⟩ := walk_cons_eq_ok_iff.mp hname'
  · exact absurd hup hother
  obtain rfl := Except.ok.inj hdown'
  obtain ⟨-, ⟨-, hup⟩ | ⟨-, -, hdown⟩⟩ := walk_cons_eq_ok_iff.mp hname
  · obtain rfl := Except.ok.inj hup
    intro hsame
    have hlength := congrArg List.length hsame
    simp only [List.length_dropLast, List.length_append, List.length_singleton] at hlength
    omega
  · obtain rfl := Except.ok.inj hdown
    exact fun hsame ↦ hne (List.singleton_inj.mp (List.append_cancel_left hsame))

/-- A path is walked in the same way where the directories are kept, if the path beside it can be
walked. -/
theorem KeepsDirectories.walk_beside (hkeeps : store.KeepsDirectories next)
    (h : store.walk names (first ++ [other]) = .ok reached) :
    next.walk names (first ++ [name]) = store.walk names (first ++ [name]) := by
  obtain ⟨middle, hmiddle, hother⟩ := walk_append_eq_ok_iff.mp h
  have hdirectory := (walk_cons_eq_ok_iff.mp hother).1
  rw [walk_append, walk_append, hmiddle, hkeeps.walk hmiddle]
  simp only [Except.bind, Store.walk, isDirectory, hdirectory, hkeeps.find?_eq hdirectory]

end Beside

/-! ### Places of paths -/

theorem place?_eq (store : Store) (path : Path) : store.place? path =
    if pathLimit ≤ path.toString.utf8ByteSize then .error .tooLong
    else (store.walk (store.start path) path.names).map .rooted := rfl

theorem place?_eq_ok_iff : store.place? path = .ok place ↔
    path.toString.utf8ByteSize < pathLimit ∧ place.root = "/" ∧
      store.walk (store.start path) path.names = .ok place.names := by
  rw [place?_eq]
  split_ifs with hlong
  · exact iff_of_false nofun fun h ↦ absurd h.1 (not_lt.mpr hlong)
  · cases store.walk (store.start path) path.names with
    | error obstacle => exact iff_of_false nofun fun h ↦ nomatch h.2.2
    | ok reached =>
      obtain ⟨root, names⟩ := place
      simp [Except.map, Path.rooted, not_le.mp hlong, eq_comm]

/-- A path leads nowhere if its text is too long or it cannot be walked. -/
theorem place?_eq_error_iff {obstacle : Obstacle} : store.place? path = .error obstacle ↔
    pathLimit ≤ path.toString.utf8ByteSize ∧ obstacle = .tooLong ∨
      path.toString.utf8ByteSize < pathLimit ∧
        store.walk (store.start path) path.names = .error obstacle := by
  rw [place?_eq]
  split_ifs with hlong
  · simp [hlong, eq_comm]
  · cases store.walk (store.start path) path.names with
    | ok reached => exact iff_of_false (by rintro ⟨⟩) (by simp [hlong])
    | error cause => simp [Except.map, hlong, Nat.lt_of_not_le hlong]

theorem resolve_eq_ok_iff : store.resolve path = .ok place ↔
    path.holdsNul = false ∧ store.place? path = .ok place := by
  unfold resolve
  split_ifs with hnul
  · simp [hnul]
  · cases store.place? path <;> simp [Bool.eq_false_iff.mpr hnul]

/-- Nothing is said to be missing unless a directory on the way is. -/
theorem walk_of_resolve_missing {description : String} {shown : Option String}
    (h : store.resolve path = .error (.os (.numbered 2 description shown))) :
    store.walk (store.start path) path.names = .error .missing := by
  unfold resolve at h
  split_ifs at h with hnul
  · cases h
  cases hplace : store.place? path with
  | ok place =>
    rw [hplace] at h
    cases h
  | error obstacle =>
    rw [hplace] at h
    obtain rfl : obstacle = .missing := by
      cases obstacle with
      | missing => rfl
      | notDirectory | tooLong => cases h
    exact ((place?_eq_error_iff.mp hplace).resolve_left (by rintro ⟨-, ⟨⟩⟩)).2

/-- The names `front` of a path lead where nothing stands, and the names `behind` follow them. -/
structure StopsShort (store : Store) (path : Path) (front behind reached : List String) :
    Prop where
  names_eq : path.names = front ++ behind
  behind_ne_nil : behind ≠ []
  walk_eq : store.walk (store.start path) front = .ok reached
  find?_eq : store.find? (.rooted reached) = none

/-- A directory on the way of the path is missing, and the name stands behind it. -/
def IsBehindMissing (store : Store) (path : Path) (name : String) : Prop :=
  store.place? path = .error .missing ∧
    ∃ front behind reached, store.StopsShort path front behind reached ∧ name ∈ behind

theorem exists_stopsShort (h : store.place? path = .error .missing) :
    ∃ front behind reached, store.StopsShort path front behind reached ∧
      ∀ name ∈ behind, store.IsBehindMissing path name := by
  obtain ⟨-, ⟨⟩⟩ | ⟨-, hwalk⟩ := place?_eq_error_iff.mp h
  obtain ⟨front, behind, reached, hnames, hbehind, hfront, hnone⟩ := exists_of_walk_missing hwalk
  have hshort : store.StopsShort path front behind reached := ⟨hnames, hbehind, hfront, hnone⟩
  exact ⟨front, behind, reached, hshort, fun _ hmem ↦ ⟨h, front, behind, reached, hshort, hmem⟩⟩

theorem KeepsDirectories.place? (hkeeps : store.KeepsDirectories next)
    (h : store.place? path = .ok place) : next.place? path = .ok place := by
  rw [place?_eq_ok_iff] at h ⊢
  rw [hkeeps.start_eq]
  exact ⟨h.1, h.2.1, hkeeps.walk h.2.2⟩

theorem KeepsDirectories.resolve (hkeeps : store.KeepsDirectories next)
    (h : store.resolve path = .ok place) : next.resolve path = .ok place := by
  rw [resolve_eq_ok_iff] at h ⊢
  exact ⟨h.1, hkeeps.place? h.2⟩

theorem KeepsDirectories.leadsToDirectory (hkeeps : store.KeepsDirectories next)
    (h : store.leadsToDirectory path = true) : next.leadsToDirectory path = true := by
  unfold Store.leadsToDirectory at h ⊢
  cases hplace : store.resolve path with
  | error fault =>
    rw [hplace] at h
    cases h
  | ok place =>
    rw [hplace] at h
    rw [hkeeps.resolve hplace]
    exact isDirectory_iff.mpr (hkeeps.find?_eq (isDirectory_iff.mp h))

theorem occupied_of_resolve (h : store.resolve path = .ok place) :
    store.occupied path = .ok (store.find? place).isSome := by
  obtain ⟨hnul, hplace⟩ := resolve_eq_ok_iff.mp h
  rw [occupied, if_neg (by rw [hnul]; exact Bool.false_ne_true), hplace]

/-- What stands where a path leads. -/
def entry? (store : Store) (path : Path) : Option Entry :=
  match store.resolve path with
  | .ok place => store.find? place
  | .error _ => none

theorem IsTree.find?_parent_of_place? (htree : store.IsTree) (h : store.place? path = .ok place) :
    store.find? place.parent = some .directory := by
  obtain ⟨-, hroot, hwalk⟩ := place?_eq_ok_iff.mp h
  have hstart : store.isFixed (.rooted (store.start path)) = true := by
    rw [isFixed_iff, start]
    split_ifs
    · exact List.prefix_refl _
    · exact List.nil_prefix
  have hparent := htree.find?_parent_of_walk (find?_of_isFixed (isFixed_parent hstart)) hwalk
  rwa [Path.rooted, ← hroot] at hparent

end Store

end DeskAssistant.File
