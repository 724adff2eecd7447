import DeskAssistant.Proofs.File.Directories

/-!
# Changes that fail part of the way

A device can fail at any moment: when a directory is made after some of those above it, before a
file is opened, after any part of its content was written, or before a file is moved. `Attempt` is
what an action may leave behind in such a world, `Attempts` what a list of actions may, and what
the actions do when the device does not fail is one such outcome (`attempt_perform`,
`attempts_performAll`). A move happens as a whole or not at all.
-/

set_option autoImplicit false
set_option relaxedAutoImplicit false

namespace DeskAssistant.File.Store

variable {store middle next : Store} {path place source target origin goal : Path}
  {content : ByteArray}

/-! ### Actions on a device that may fail -/

/-- What an action may do to a store: the store as it then stands, and how the action ended. -/
inductive Attempt (store : Store) : Action → Store → Except Fault Unit → Prop
  /-- The device did not fail. -/
  | performed (action : Action) :
    Attempt store action (store.perform action).1 (store.perform action).2
  | refused (action : Action) (fault : Fault) : Attempt store action store (.error fault)
  /-- Only the directories above one on the way were made. -/
  | madeInPart (path : Path) {names : List String} (hnames : names <+: path.names)
      (fault : Fault) : Attempt store (.makeDirectories path)
        (store.makeDirectories ⟨path.root, names⟩).1 (.error fault)
  /-- Only the first part of the content was written. -/
  | writtenInPart (path : Path) {written rest : ByteArray} {next : Store}
      (hwrite : store.write path written = .ok next) (fault : Fault) :
      Attempt store (.write path (written ++ rest)) next (.error fault)

/-- What a list of actions may do, which are performed up to the first that fails. -/
inductive Attempts : Store → List Action → Store → Except Fault Unit → Prop
  | nil (store : Store) : Attempts store [] store (.ok ())
  | failed {store next : Store} {action : Action} {fault : Fault}
      (h : store.Attempt action next (.error fault)) (rest : List Action) :
      Attempts store (action :: rest) next (.error fault)
  | cons {store middle next : Store} {action : Action} {rest : List Action}
      {result : Except Fault Unit} (h : store.Attempt action middle (.ok ()))
      (hrest : Attempts middle rest next result) : Attempts store (action :: rest) next result

theorem attempts_performAll (store : Store) (actions : List Action) :
    store.Attempts actions (store.performAll actions).1 (store.performAll actions).2 := by
  induction actions generalizing store with
  | nil => exact .nil store
  | cons action rest ih =>
    have hattempt : store.Attempt action _ _ := .performed action
    rw [performAll]
    rcases hperform : store.perform action with ⟨changed, fault | ⟨⟩⟩
    · rw [hperform] at hattempt
      exact .failed hattempt rest
    · rw [hperform] at hattempt
      exact .cons hattempt (ih changed)

/-! ### Directories -/

/-- However far it gets, making directories adds directories only. -/
theorem Attempt.extendsAlong {result : Except Fault Unit}
    (h : store.Attempt (.makeDirectories path) next result) : store.ExtendsAlong next path := by
  cases h with
  | performed => exact extendsAlong_makeDirectories store path
  | refused => exact .refl store path
  | madeInPart _ hnames => exact (extendsAlong_makeDirectories store _).of_initial hnames

theorem Attempt.eq_of_nil {result : Except Fault Unit}
    (h : store.Attempt (.makeDirectories path) next result) (hnames : path.names = []) :
    next = store := by
  cases h with
  | performed => rw [perform, makeDirectories_of_nil store hnames]
  | refused => rfl
  | madeInPart _ hprefix =>
    rw [hnames, List.prefix_nil] at hprefix
    rw [makeDirectories, hprefix]
    rfl

/-- Where the path could be walked, no directory is made. -/
theorem Attempt.eq_of_walk {rest : List String} {result : Except Fault Unit}
    (h : store.Attempt (.makeDirectories path) next result) (hrest : rest ≠ [])
    (hwalk : store.walk (store.start path) (path.names ++ rest) ≠ .error .missing) :
    next = store := by
  cases h with
  | performed => exact fst_makeDirectories_of_walk hrest hwalk
  | refused => rfl
  | madeInPart _ hnames =>
    obtain ⟨more, hmore⟩ := hnames
    rw [← hmore, List.append_assoc] at hwalk
    exact fst_makeDirectories_of_walk (List.append_ne_nil_of_right_ne_nil more hrest) hwalk

/-! ### Files -/

/-- `next` is `store` but for a file at a place. -/
structure DiffersAt (store next : Store) (place : Path) (content : ByteArray) : Prop where
  workingDirectory_eq : next.workingDirectory = store.workingDirectory
  noDirectory : store.find? place ≠ some .directory
  find?_self : ∃ executable, next.find? place = some (.file content executable)
  find?_of_ne : ∀ {other : Path}, other ≠ place → next.find? other = store.find? other

theorem DiffersAt.keepsDirectories (h : store.DiffersAt next place content) :
    store.KeepsDirectories next := by
  refine ⟨h.workingDirectory_eq, fun {other} hother ↦ ?_⟩
  rw [h.find?_of_ne, hother]
  rintro rfl
  exact h.noDirectory hother

theorem DiffersAt.isTree (h : store.DiffersAt next place content) (htree : store.IsTree)
    (hparent : store.find? place.parent = some .directory) : next.IsTree := by
  intro other hother
  refine h.keepsDirectories.find?_eq ?_
  rcases eq_or_ne other place with rfl | hne
  · exact hparent
  · rw [h.find?_of_ne hne] at hother
    exact htree other hother

theorem exists_of_write (h : store.write path content = .ok next) :
    ∃ place, store.resolve path = .ok place ∧ store.DiffersAt next place content := by
  unfold write change at h
  cases hresolve : store.resolve path with
  | error fault =>
    rw [hresolve] at h
    cases h
  | ok place =>
    rw [hresolve] at h
    refine ⟨place, rfl, ?_⟩
    cases hfound : store.find? place with
    | none =>
      simp only [bind, Except.bind, hfound] at h
      obtain rfl := Except.ok.inj h
      have hfile : store.find? place ≠ some .directory := by
        rw [hfound]
        nofun
      exact ⟨rfl, hfile, ⟨false, store.find?_put_self _ (isFixed_eq_false_of_find? hfile)⟩,
        fun hne ↦ store.find?_put_of_ne _ hne⟩
    | some entry =>
      cases entry with
      | directory =>
        simp only [bind, Except.bind, hfound] at h
        cases h
      | file present executable =>
        simp only [bind, Except.bind, hfound] at h
        obtain rfl := Except.ok.inj h
        have hfile : store.find? place ≠ some .directory := by
          rw [hfound]
          nofun
        have hfree := isFixed_eq_false_of_find? hfile
        exact ⟨rfl, hfile, ⟨executable, find?_put_self _ _ hfree⟩,
          fun hne ↦ (find?_put_of_ne _ _ hne).trans (store.find?_erase_of_ne hne)⟩

/-- A file can be written where a path leads, unless a directory stands there. -/
theorem exists_write_eq (hresolve : store.resolve path = .ok place)
    (hplace : store.find? place ≠ some .directory) (content : ByteArray) :
    ∃ next, store.write path content = .ok next := by
  unfold write change
  rw [hresolve]
  cases hfound : store.find? place with
  | none =>
    simp only [bind, Except.bind, hfound]
    exact ⟨_, rfl⟩
  | some entry =>
    cases entry with
    | directory => exact absurd hfound hplace
    | file present executable =>
      simp only [bind, Except.bind, hfound]
      exact ⟨_, rfl⟩

/-- However far it gets, writing a file leaves all as it was or changes the one file; without a
fault the whole content is there. -/
theorem Attempt.write_cases {result : Except Fault Unit}
    (h : store.Attempt (.write path content) next result) :
    (∃ fault, result = .error fault ∧ next = store) ∨
      ∃ place written, store.resolve path = .ok place ∧ store.DiffersAt next place written ∧
        (result = .ok () → written = content) := by
  cases h with
  | performed =>
    cases hwrite : store.write path content with
    | ok changed =>
      obtain ⟨place, hresolve, hdiffers⟩ := exists_of_write hwrite
      refine Or.inr ⟨place, content, hresolve, ?_, fun _ ↦ rfl⟩
      rw [perform, hwrite]
      exact hdiffers
    | error fault =>
      rw [perform, hwrite]
      exact Or.inl ⟨fault, rfl, rfl⟩
  | refused _ fault => exact Or.inl ⟨fault, rfl, rfl⟩
  | writtenInPart _ hwrite fault =>
    obtain ⟨place, hresolve, hdiffers⟩ := exists_of_write hwrite
    exact Or.inr ⟨place, _, hresolve, hdiffers, nofun⟩

/-! ### Moves -/

theorem exists_resolve_of_rename (h : store.rename source target = .ok next) :
    ∃ origin goal, store.resolve source = .ok origin ∧ store.resolve target = .ok goal := by
  unfold rename at h
  cases hsource : store.resolve source with
  | error fault =>
    rw [hsource] at h
    cases h
  | ok origin =>
    cases htarget : store.resolve target with
    | error fault =>
      rw [hsource, htarget] at h
      cases h
    | ok goal => exact ⟨origin, goal, rfl, rfl⟩

/-- A file can be moved to another place unless a directory is there or at one of the names. -/
theorem rename_eq_ok_iff {entry : Entry} (hsource : store.resolve source = .ok origin)
    (htarget : store.resolve target = .ok goal) (horigin : store.find? origin = some entry)
    (hfile : entry ≠ .directory) (hne : origin ≠ goal) :
    store.rename source target = .ok next ↔ source.name ≠ Path.above ∧
      target.name ≠ Path.above ∧ store.find? goal ≠ some .directory ∧
        next = store.relocate origin goal := by
  unfold rename
  rw [hsource, htarget]
  by_cases habove : source.name = Path.above ∨ target.name = Path.above
  · refine iff_of_false ?_ fun h ↦ habove.elim h.1 h.2.1
    simp [bind, Except.bind, throw, throwThe, MonadExceptOf.throw, habove]
  · obtain ⟨hsourceName, htargetName⟩ := not_or.mp habove
    by_cases hgoal : store.find? goal = some .directory
    · simp [bind, Except.bind, throw, throwThe, MonadExceptOf.throw, habove, horigin, hne, hgoal,
        hfile, isDirectory]
    · simp [bind, Except.bind, pure, Except.pure, hsourceName, htargetName, horigin, hne, hgoal,
        isDirectory, eq_comm]

/-- A move that ends with a fault did nothing. -/
theorem Attempt.rename_cases {result : Except Fault Unit}
    (h : store.Attempt (.rename source target) next result) :
    (∃ fault, result = .error fault ∧ next = store) ∨
      result = .ok () ∧ store.rename source target = .ok next := by
  cases h with
  | performed =>
    cases hrename : store.rename source target with
    | ok changed =>
      rw [perform, hrename]
      exact Or.inr ⟨rfl, rfl⟩
    | error fault =>
      rw [perform, hrename]
      exact Or.inl ⟨fault, rfl, rfl⟩
  | refused _ fault => exact Or.inl ⟨fault, rfl, rfl⟩

/-- A file was written at `origin` and moved from there to `goal`, where `source` and `target`
lead. -/
structure Moved (store next : Store) (source target origin goal : Path) (content : ByteArray) :
    Prop where
  resolve_source : next.resolve source = .ok origin
  resolve_target : next.resolve target = .ok goal
  apart : origin ≠ goal
  source_name : source.name ≠ Path.above
  target_name : target.name ≠ Path.above
  find?_origin : next.find? origin = none
  find?_goal : ∃ executable, next.find? goal = some (.file content executable)
  find?_of_ne : ∀ {place : Path}, place ≠ origin → place ≠ goal →
    next.find? place = store.find? place
  keepsDirectories : store.KeepsDirectories next
  isTree : next.IsTree

/-- A file that was written and then moved is at its new place as a whole, and nothing else
changed. -/
theorem moved_of_rename (htree : store.IsTree) (hsource : store.resolve source = .ok origin)
    (hwritten : store.DiffersAt middle origin content)
    (hrename : middle.rename source target = .ok next)
    (hapart : ∀ goal, middle.resolve target = .ok goal → origin ≠ goal) :
    ∃ goal, store.Moved next source target origin goal content := by
  obtain ⟨origin', goal, hsource', htarget⟩ := exists_resolve_of_rename hrename
  have hkeptSource := hwritten.keepsDirectories.resolve hsource
  obtain rfl : origin = origin' := Except.ok.inj (hkeptSource.symm.trans hsource')
  obtain ⟨executable, horigin⟩ := hwritten.find?_self
  have hne := hapart goal htarget
  have hfile : Entry.file content executable ≠ .directory := by rintro ⟨⟩
  obtain ⟨hsourceName, htargetName, hgoal, rfl⟩ :=
    (rename_eq_ok_iff hkeptSource htarget horigin hfile hne).mp hrename
  have htreeMiddle := hwritten.isTree htree
    (htree.find?_parent_of_place? (resolve_eq_ok_iff.mp hsource).2)
  have hparent := htreeMiddle.find?_parent_of_place? (resolve_eq_ok_iff.mp htarget).2
  have hfind := htreeMiddle.find?_relocate horigin hfile hgoal hne
  have hkeeps : middle.KeepsDirectories (middle.relocate origin goal) := by
    refine ⟨rfl, fun {place} hplace ↦ ?_⟩
    rw [hfind, if_neg (by rintro rfl; exact hgoal hplace), if_neg, hplace]
    rintro rfl
    rw [horigin] at hplace
    cases hplace
  refine ⟨goal, hkeeps.resolve hkeptSource, hkeeps.resolve htarget, hne, hsourceName, htargetName,
    ?_, ?_, ?_, ?_, ?_⟩
  · rw [hfind, if_neg hne, if_pos rfl]
  · exact ⟨executable, by rw [hfind, if_pos rfl]⟩
  · intro place hplaceOrigin hplaceGoal
    rw [hfind, if_neg hplaceGoal, if_neg hplaceOrigin, hwritten.find?_of_ne hplaceOrigin]
  · exact hwritten.keepsDirectories.trans hkeeps
  · exact htreeMiddle.relocate horigin hfile hgoal hne hparent

/-- What was moved can be read. -/
theorem Moved.read_eq (h : store.Moved next source target origin goal content) :
    next.read target = .ok content := by
  obtain ⟨executable, hgoal⟩ := h.find?_goal
  rw [read, h.resolve_target]
  simp [bind, Except.bind, hgoal, pure, Except.pure]

/-- Where a file was moved from, another can be written, and moved in the same way. -/
theorem Moved.exists_again (h : store.Moved next source target origin goal content)
    (other : ByteArray) : ∃ written again, next.write source other = .ok written ∧
      written.rename source target = .ok again := by
  obtain ⟨executable, hgoal⟩ := h.find?_goal
  have hfree : next.find? origin ≠ some .directory := by
    rw [h.find?_origin]
    nofun
  obtain ⟨written, hwrite⟩ := exists_write_eq h.resolve_source hfree other
  obtain ⟨place, hplace, hdiffers⟩ := exists_of_write hwrite
  obtain rfl : origin = place := Except.ok.inj (h.resolve_source.symm.trans hplace)
  obtain ⟨executable', hwritten⟩ := hdiffers.find?_self
  have hfile : written.find? goal ≠ some .directory := by
    rw [hdiffers.find?_of_ne h.apart.symm, hgoal]
    nofun
  refine ⟨written, _, hwrite, (rename_eq_ok_iff (hdiffers.keepsDirectories.resolve hplace)
    (hdiffers.keepsDirectories.resolve h.resolve_target) hwritten (by rintro ⟨⟩) h.apart).mpr
      ⟨h.source_name, h.target_name, hfile, rfl⟩⟩

end DeskAssistant.File.Store
