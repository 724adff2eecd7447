import DeskAssistant.Proofs.File.Walk

/-!
# Directories that are made

Making a directory with the missing ones above it leaves every entry of a store as it is and adds
directories, each where an initial part of the path leads (`extendsAlong_makeDirectories`). Where
the path could be walked before nothing is made (`fst_makeDirectories_of_walk`), and a directory
that was made without a fault is there (`leadsToDirectory_of_makeDirectories`).
-/

set_option autoImplicit false
set_option relaxedAutoImplicit false

namespace DeskAssistant.File.Store

variable {store middle next : Store} {path place : Path} {root name : String}
  {backwards : List String}

/-! ### New directories -/

/-- `next` is `store` with new directories, each where an initial part of `path` leads. -/
structure ExtendsAlong (store next : Store) (path : Path) : Prop where
  workingDirectory_eq : next.workingDirectory = store.workingDirectory
  find?_cases : ∀ place, next.find? place = store.find? place ∨
    store.find? place = none ∧ next.find? place = some .directory ∧
      ∃ names, names <+: path.names ∧ next.place? ⟨path.root, names⟩ = .ok place
  isTree : store.IsTree → next.IsTree

theorem ExtendsAlong.keepsDirectories (h : store.ExtendsAlong next path) :
    store.KeepsDirectories next where
  workingDirectory_eq := h.workingDirectory_eq
  find?_eq := by
    intro place hplace
    obtain hsame | ⟨-, hdirectory, -⟩ := h.find?_cases place
    · rw [hsame, hplace]
    · exact hdirectory

theorem ExtendsAlong.refl (store : Store) (path : Path) : store.ExtendsAlong store path :=
  ⟨rfl, fun _ ↦ Or.inl rfl, id⟩

theorem ExtendsAlong.trans (hfirst : store.ExtendsAlong middle path)
    (hsecond : middle.ExtendsAlong next path) : store.ExtendsAlong next path := by
  refine ⟨hsecond.workingDirectory_eq.trans hfirst.workingDirectory_eq, fun place ↦ ?_,
    hsecond.isTree ∘ hfirst.isTree⟩
  obtain hsame | ⟨hnone, hdirectory, hleads⟩ := hsecond.find?_cases place
  · rw [hsame]
    obtain hsame' | ⟨hnone, hdirectory, names, hnames, hplace⟩ := hfirst.find?_cases place
    · exact Or.inl hsame'
    · exact Or.inr ⟨hnone, hdirectory, names, hnames,
        hsecond.keepsDirectories.place? hplace⟩
  · obtain hsame' | ⟨-, hdirectory', -⟩ := hfirst.find?_cases place
    · exact Or.inr ⟨hsame' ▸ hnone, hdirectory, hleads⟩
    · rw [hdirectory'] at hnone
      cases hnone

theorem ExtendsAlong.of_initial {names : List String}
    (h : store.ExtendsAlong next ⟨path.root, names⟩) (hnames : names <+: path.names) :
    store.ExtendsAlong next path := by
  refine ⟨h.workingDirectory_eq, fun place ↦ (h.find?_cases place).imp_right ?_, h.isTree⟩
  rintro ⟨hnone, hdirectory, initial, hinitial, hplace⟩
  exact ⟨hnone, hdirectory, initial, hinitial.trans hnames, hplace⟩

/-! ### One directory -/

theorem makeDirectory_eq_ok_iff : store.makeDirectory path = .ok next ↔
    ∃ place, store.resolve path = .ok place ∧ store.find? place = none ∧
      next = store.put place .directory := by
  unfold makeDirectory
  cases store.resolve path with
  | error fault => exact iff_of_false nofun nofun
  | ok place =>
    cases hfound : store.find? place with
    | none => simp [bind, Except.bind, pure, Except.pure, hfound, eq_comm]
    | some entry => simp [bind, Except.bind, throw, throwThe, MonadExceptOf.throw, hfound]

theorem extendsAlong_makeDirectory (h : store.makeDirectory path = .ok next) :
    store.ExtendsAlong next path := by
  obtain ⟨place, hresolve, hnone, rfl⟩ := makeDirectory_eq_ok_iff.mp h
  have hplace := (resolve_eq_ok_iff.mp hresolve).2
  have hnotDirectory : store.find? place ≠ some .directory := by
    rw [hnone]
    nofun
  have hself := store.find?_put_self .directory (isFixed_eq_false_of_find? hnotDirectory)
  have hkeeps : store.KeepsDirectories (store.put place .directory) := by
    refine ⟨rfl, fun {other} hother ↦ ?_⟩
    rw [find?_put_of_ne, hother]
    rintro rfl
    exact hnotDirectory hother
  refine ⟨rfl, fun other ↦ ?_,
    fun htree ↦ htree.put (htree.find?_parent_of_place? hplace) hnotDirectory⟩
  rcases eq_or_ne other place with rfl | hne
  · exact Or.inr ⟨hnone, hself, path.names, List.prefix_refl _, hkeeps.place? hplace⟩
  · exact Or.inl (store.find?_put_of_ne _ hne)

theorem extendsAlong_settleDirectory (store : Store) (path : Path) :
    store.ExtendsAlong (store.settleDirectory path (store.makeDirectory path)).1 path := by
  cases hmade : store.makeDirectory path with
  | ok changed => exact extendsAlong_makeDirectory hmade
  | error fault => exact .refl store path

/-- A directory that was made, or that was there, is there. -/
theorem leadsToDirectory_of_settleDirectory
    (h : (store.settleDirectory path (store.makeDirectory path)).2 = .ok ()) :
    (store.settleDirectory path (store.makeDirectory path)).1.leadsToDirectory path = true := by
  cases hmade : store.makeDirectory path with
  | ok changed =>
    obtain ⟨place, hresolve, hnone, hput⟩ := makeDirectory_eq_ok_iff.mp hmade
    have hnotDirectory : store.find? place ≠ some .directory := by
      rw [hnone]
      nofun
    have hresolve' := (extendsAlong_makeDirectory hmade).keepsDirectories.resolve hresolve
    rw [settleDirectory, leadsToDirectory, hresolve']
    dsimp only
    rw [hput, isDirectory_iff]
    exact store.find?_put_self .directory (isFixed_eq_false_of_find? hnotDirectory)
  | error fault =>
    rw [hmade, settleDirectory] at h
    rw [settleDirectory]
    by_contra hleads
    rw [if_neg hleads] at h
    cases h

/-! ### Directories one above the other -/

/-- A directory is made in a store in which those above it are made, if they were missing and could
be made. -/
theorem makeBelow_cons_cases (store : Store) (root name : String) (others : List String) :
    store.makeBelow root (name :: others) =
        store.settleDirectory ⟨root, (name :: others).reverse⟩
          (store.makeDirectory ⟨root, (name :: others).reverse⟩) ∨
    (∃ description shown, store.makeDirectory ⟨root, (name :: others).reverse⟩ =
        .error (.os (.numbered 2 description shown))) ∧
      ((∃ fault, (store.makeBelow root others).2 = .error fault ∧
          store.makeBelow root (name :: others) = store.makeBelow root others) ∨
        store.makeBelow root (name :: others) =
          (store.makeBelow root others).1.settleDirectory ⟨root, (name :: others).reverse⟩
            ((store.makeBelow root others).1.makeDirectory
              ⟨root, (name :: others).reverse⟩)) := by
  rw [makeBelow]
  split
  · next description shown hmissing =>
    refine Or.inr ⟨⟨description, shown, hmissing⟩, ?_⟩
    split
    · next made hmade =>
      rw [hmade]
      exact Or.inr rfl
    · next made fault hmade =>
      rw [hmade]
      exact Or.inl ⟨fault, rfl, rfl⟩
  · exact Or.inl rfl

theorem extendsAlong_makeBelow (store : Store) (root : String) (backwards : List String) :
    store.ExtendsAlong (store.makeBelow root backwards).1 ⟨root, backwards.reverse⟩ := by
  induction backwards with
  | nil => exact .refl store _
  | cons name others ih =>
    have habove : others.reverse <+: (name :: others).reverse := by
      rw [List.reverse_cons]
      exact List.prefix_append _ _
    have hothers : store.ExtendsAlong (store.makeBelow root others).1
        ⟨root, (name :: others).reverse⟩ := ih.of_initial habove
    obtain hmade | ⟨-, ⟨_, -, hmade⟩ | hmade⟩ := store.makeBelow_cons_cases root name others
    · rw [hmade]
      exact extendsAlong_settleDirectory store _
    · rw [hmade]
      exact hothers
    · rw [hmade]
      exact hothers.trans (extendsAlong_settleDirectory _ _)

theorem extendsAlong_makeDirectories (store : Store) (path : Path) :
    store.ExtendsAlong (store.makeDirectories path).1 path := by
  have hmade := store.extendsAlong_makeBelow path.root path.names.reverse
  rwa [List.reverse_reverse] at hmade

theorem leadsToDirectory_of_makeDirectories (hnames : path.names ≠ [])
    (h : (store.makeDirectories path).2 = .ok ()) :
    (store.makeDirectories path).1.leadsToDirectory path = true := by
  obtain ⟨root, names⟩ := path
  obtain ⟨name, others, hreverse⟩ :=
    List.exists_cons_of_ne_nil (List.reverse_ne_nil_iff.mpr hnames)
  have hpath : names = (name :: others).reverse := by rw [← hreverse, List.reverse_reverse]
  rw [makeDirectories, hreverse] at h ⊢
  subst hpath
  obtain hmade | ⟨-, ⟨fault, hfault, hmade⟩ | hmade⟩ := store.makeBelow_cons_cases root name others
  · rw [hmade] at h ⊢
    exact leadsToDirectory_of_settleDirectory h
  · rw [hmade, hfault] at h
    cases h
  · rw [hmade] at h ⊢
    exact leadsToDirectory_of_settleDirectory h

/-- The root and the working directory are there. -/
theorem makeDirectories_of_nil (store : Store) (hnames : path.names = []) :
    store.makeDirectories path = (store, .ok ()) := by
  rw [makeDirectories, hnames]
  rfl

/-- A fault other than that something is missing is settled where it arose. -/
theorem makeDirectories_of_refused {fault : Fault} (hnames : path.names ≠ [])
    (hmade : store.makeDirectory path = .error fault)
    (hfault : ∀ description shown, fault ≠ .os (.numbered 2 description shown)) :
    store.makeDirectories path = store.settleDirectory path (.error fault) := by
  obtain ⟨root, names⟩ := path
  obtain ⟨name, others, hreverse⟩ :=
    List.exists_cons_of_ne_nil (List.reverse_ne_nil_iff.mpr hnames)
  obtain rfl : names = (name :: others).reverse := by rw [← hreverse, List.reverse_reverse]
  rw [makeDirectories, hreverse]
  obtain hbelow | ⟨⟨description, shown, hmissing⟩, -⟩ := store.makeBelow_cons_cases root name others
  · rw [hbelow, hmade]
  · rw [hmade] at hmissing
    exact absurd (Except.error.inj hmissing) (hfault description shown)

theorem makeDirectory_of_find?_ne_none (hresolve : store.resolve path = .ok place)
    (hfound : store.find? place ≠ none) :
    store.makeDirectory path = .error (.os (.alreadyExists (some path.toString))) := by
  rw [makeDirectory, hresolve]
  simp [bind, Except.bind, throw, throwThe, MonadExceptOf.throw,
    Option.isSome_iff_ne_none.mpr hfound]

/-- Making a directory that is there does nothing. -/
theorem makeDirectories_of_leadsToDirectory (h : store.leadsToDirectory path = true) :
    store.makeDirectories path = (store, .ok ()) := by
  rcases eq_or_ne path.names [] with hnames | hnames
  · exact makeDirectories_of_nil _ hnames
  · have hleads := h
    unfold leadsToDirectory at hleads
    split at hleads
    · next place hresolve =>
      have hfound : store.find? place ≠ none := by
        rw [isDirectory_iff.mp hleads]
        nofun
      rw [makeDirectories_of_refused hnames (makeDirectory_of_find?_ne_none hresolve hfound)
        (by rintro description shown ⟨⟩), settleDirectory, if_pos h]
    · cases hleads

/-- Directories that were made are not made again. -/
theorem makeDirectories_again (h : store.makeDirectories path = (middle, .ok ()))
    (hkeeps : middle.KeepsDirectories next) : next.makeDirectories path = (next, .ok ()) := by
  rcases eq_or_ne path.names [] with hnames | hnames
  · exact makeDirectories_of_nil _ hnames
  · have hleads := leadsToDirectory_of_makeDirectories hnames (by rw [h])
    rw [h] at hleads
    exact makeDirectories_of_leadsToDirectory (hkeeps.leadsToDirectory hleads)

/-- Where a path can be walked to its end, nothing is made at its initial parts. -/
theorem fst_makeDirectories_of_walk {rest : List String} (hrest : rest ≠ [])
    (h : store.walk (store.start path) (path.names ++ rest) ≠ .error .missing) :
    (store.makeDirectories path).1 = store := by
  rcases eq_or_ne path.names [] with hnames | hnames
  · rw [makeDirectories_of_nil store hnames]
  suffices hrefused : ∃ fault, store.makeDirectory path = .error fault ∧
      ∀ description shown, fault ≠ .os (.numbered 2 description shown) by
    obtain ⟨fault, hmade, hfault⟩ := hrefused
    rw [makeDirectories_of_refused hnames hmade hfault]
    rfl
  cases hresolve : store.resolve path with
  | ok place =>
    obtain ⟨-, hroot, hwalk⟩ := place?_eq_ok_iff.mp (resolve_eq_ok_iff.mp hresolve).2
    have hfound := find?_ne_none_of_walk_append hrest h hwalk
    rw [Path.rooted, ← hroot] at hfound
    exact ⟨_, makeDirectory_of_find?_ne_none hresolve hfound, by rintro description shown ⟨⟩⟩
  | error fault =>
    refine ⟨fault, by rw [makeDirectory, hresolve]; rfl, ?_⟩
    rintro description shown rfl
    exact walk_ne_missing_of_append h (walk_of_resolve_missing hresolve)

end DeskAssistant.File.Store
