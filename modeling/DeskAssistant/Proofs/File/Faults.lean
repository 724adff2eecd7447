import DeskAssistant.Proofs.File.Directories

/-!
# Faults of paths

A path that holds the character NUL is refused before anything is looked up. Any other path meets
errors of the operating system alone, whatever stands in the store (`FailsBySystem`): when it is
resolved, when directories are made along it (`failsBySystem_makeDirectories`) and when the file
there is written to (`failsBySystem_append`).
-/

set_option autoImplicit false
set_option relaxedAutoImplicit false

namespace DeskAssistant

/-- If the outcome is a fault, it is an error of the operating system. -/
def FailsBySystem {α : Type} (outcome : Except Fault α) : Prop :=
  ∀ fault, outcome = .error fault → ∃ error, fault = .os error

section FailsBySystem

variable {α β : Type}

theorem failsBySystem_ok (value : α) : FailsBySystem (.ok value) := by
  intro fault h
  cases h

theorem failsBySystem_os (error : File.OsError) :
    FailsBySystem (.error (.os error) : Except Fault α) := by
  intro fault h
  cases h
  exact ⟨error, rfl⟩

theorem FailsBySystem.bind {outcome : Except Fault α} {next : α → Except Fault β}
    (h : FailsBySystem outcome) (hnext : ∀ value, FailsBySystem (next value)) :
    FailsBySystem (outcome >>= next) := by
  intro fault hfault
  cases outcome with
  | ok value => exact hnext value fault hfault
  | error first =>
    obtain rfl : first = fault := Except.error.inj hfault
    exact h first rfl

end FailsBySystem

namespace File

/-! ### Paths without NUL -/

namespace Path

variable {path : Path}

theorem holdsNul_eq_false_iff :
    path.holdsNul = false ↔ ∀ name ∈ path.names, '\x00' ∉ name.toList := by
  simp [holdsNul]

theorem holdsNul_child (name : String) (hpath : path.holdsNul = false)
    (hname : '\x00' ∉ name.toList) : (path.child name).holdsNul = false := by
  rw [holdsNul_eq_false_iff] at hpath ⊢
  intro other hother
  obtain hmem | hlast := List.mem_append.mp hother
  · exact hpath other hmem
  · rwa [List.mem_singleton.mp hlast]

theorem names_collapsed_subset (path : Path) : path.collapsed.names ⊆ path.names := by
  refine List.foldlRecOn (motive := fun names ↦ names ⊆ path.names) path.names _
    (List.nil_subset _) ?_
  intro names hnames name hname
  split_ifs
  · exact List.Subset.trans (List.dropLast_subset names) hnames
  · exact List.append_subset.mpr ⟨hnames, List.cons_subset.mpr ⟨hname, List.nil_subset _⟩⟩

theorem holdsNul_collapsed (hpath : path.holdsNul = false) : path.collapsed.holdsNul = false := by
  rw [holdsNul_eq_false_iff] at hpath ⊢
  exact fun name hname ↦ hpath name (path.names_collapsed_subset hname)

end Path

/-! ### Changes of a store -/

namespace Store

variable {store : Store} {path : Path}

theorem holdsNul_absolute (hpath : path.holdsNul = false) :
    (store.absolute path).holdsNul = false := by
  unfold absolute
  split_ifs
  · rw [Path.holdsNul_eq_false_iff] at hpath ⊢
    intro name hname
    obtain hworking | hown := List.mem_append.mp hname
    · exact Path.holdsNul_eq_false_iff.mp store.noNul name hworking
    · exact hpath name hown
  · exact hpath

theorem resolve_of_holdsNul (hnul : path.holdsNul = true) :
    store.resolve path = .error .embeddedNul := by
  rw [resolve, if_pos hnul]

theorem failsBySystem_resolve (hnul : path.holdsNul = false) :
    FailsBySystem (store.resolve path) := by
  rw [resolve, hnul, if_neg Bool.false_ne_true]
  split
  · exact failsBySystem_ok _
  · exact failsBySystem_os _

theorem failsBySystem_makeDirectory (hnul : path.holdsNul = false) :
    FailsBySystem (store.makeDirectory path) := by
  refine (failsBySystem_resolve hnul).bind fun place ↦ ?_
  split_ifs
  · exact failsBySystem_os _
  · exact failsBySystem_ok _

theorem failsBySystem_settleDirectory (path : Path) {made : Except Fault Store}
    (h : FailsBySystem made) : FailsBySystem (store.settleDirectory path made).2 := by
  cases made with
  | ok changed => exact failsBySystem_ok ()
  | error fault =>
    obtain ⟨error, rfl⟩ := h fault rfl
    rw [settleDirectory]
    split_ifs
    · exact failsBySystem_ok ()
    · exact failsBySystem_os error

/-- The paths above a path without NUL hold none either. -/
theorem failsBySystem_makeBelow (root : String) (backwards : List String)
    (hnul : (⟨root, backwards.reverse⟩ : Path).holdsNul = false) :
    FailsBySystem (store.makeBelow root backwards).2 := by
  induction backwards with
  | nil => exact failsBySystem_ok ()
  | cons name others ih =>
    have hothers : (⟨root, others.reverse⟩ : Path).holdsNul = false := by
      rw [Path.holdsNul_eq_false_iff] at hnul ⊢
      intro other hother
      refine hnul other ?_
      rw [List.reverse_cons]
      exact List.mem_append_left _ hother
    obtain hmade | ⟨-, ⟨fault, hfault, hmade⟩ | hmade⟩ :=
      store.makeBelow_cons_cases root name others
    · rw [hmade]
      exact failsBySystem_settleDirectory _ (failsBySystem_makeDirectory hnul)
    · rw [hmade]
      exact ih hothers
    · rw [hmade]
      exact failsBySystem_settleDirectory _ (failsBySystem_makeDirectory hnul)

theorem failsBySystem_makeDirectories (hnul : path.holdsNul = false) :
    FailsBySystem (store.makeDirectories path).2 := by
  refine failsBySystem_makeBelow path.root path.names.reverse ?_
  rwa [List.reverse_reverse]

theorem makeDirectories_of_holdsNul (hnul : path.holdsNul = true) :
    store.makeDirectories path = (store, .error .embeddedNul) := by
  have hnames : path.names ≠ [] := by
    intro hnil
    rw [Path.holdsNul, hnil] at hnul
    cases hnul
  have hmade : store.makeDirectory path = .error .embeddedNul := by
    rw [makeDirectory, resolve_of_holdsNul hnul]
    rfl
  have hfault : ∀ description shown,
      Fault.embeddedNul ≠ .os (.numbered 2 description shown) := by
    intro description shown h
    cases h
  rw [makeDirectories_of_refused hnames hmade hfault, settleDirectory, leadsToDirectory,
    resolve_of_holdsNul hnul]
  rfl

theorem failsBySystem_append (bytes : ByteArray) (hnul : path.holdsNul = false) :
    FailsBySystem (store.append path bytes) := by
  refine (failsBySystem_resolve hnul).bind fun place ↦ ?_
  split
  · exact failsBySystem_os _
  · exact failsBySystem_ok _
  · exact failsBySystem_ok _

theorem failsBySystem_settle {outcome : Except Fault Store} (h : FailsBySystem outcome) :
    FailsBySystem (store.settle outcome).2 := by
  cases outcome with
  | ok changed => exact failsBySystem_ok ()
  | error fault =>
    obtain ⟨error, rfl⟩ := h fault rfl
    exact failsBySystem_os error

theorem failsBySystem_performAll {actions : List Action}
    (h : ∀ action ∈ actions, ∀ store : Store, FailsBySystem (store.perform action).2) :
    FailsBySystem (store.performAll actions).2 := by
  induction actions generalizing store with
  | nil => exact failsBySystem_ok ()
  | cons action rest ih =>
    have hfirst := h action List.mem_cons_self store
    rw [performAll]
    rcases hperform : store.perform action with ⟨changed, fault | ⟨⟩⟩
    · rw [hperform] at hfirst
      exact hfirst
    · exact ih fun other hother ↦ h other (List.mem_cons_of_mem _ hother)

end Store

end File

end DeskAssistant
