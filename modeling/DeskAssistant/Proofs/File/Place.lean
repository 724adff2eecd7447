import DeskAssistant.File.Change
import Mathlib.Data.List.Find
import Mathlib.Data.List.Induction
import Mathlib.Data.List.Infix
import Mathlib.Tactic.SplitIfs

/-!
# Places of a store

What a change of a store does to one place, and what it leaves at the others. In a store that is a
tree, as file systems are, every entry stands in a directory, so nothing stands below a file, and a
file can be moved without anything else (`IsTree.find?_relocate`).
-/

set_option autoImplicit false
set_option relaxedAutoImplicit false

namespace DeskAssistant.File.Store

/-! ### What stands at a place -/

section Find

variable {store : Store} {place other : Path} {entry : Entry}

theorem isDirectory_iff : store.isDirectory place = true ↔ store.find? place = some .directory :=
  decide_eq_true_iff

theorem isFixed_iff : store.isFixed place = true ↔ place.names <+: store.workingDirectory :=
  List.isPrefixOf_iff_prefix

theorem find?_of_isFixed (hfixed : store.isFixed place = true) :
    store.find? place = some .directory := if_pos hfixed

/-- The root and the working directory are directories. -/
theorem isFixed_eq_false_of_find? (h : store.find? place ≠ some .directory) :
    store.isFixed place = false :=
  Bool.eq_false_iff.mpr fun hfixed ↦ h (find?_of_isFixed hfixed)

theorem isFixed_parent (hfixed : store.isFixed place = true) :
    store.isFixed place.parent = true :=
  isFixed_iff.mpr ((List.dropLast_prefix _).trans (isFixed_iff.mp hfixed))

theorem find?_of_isFixed_eq_false (hfixed : store.isFixed place = false) :
    store.find? place = (store.entries.find? fun item ↦ item.1 = place).map (·.2) :=
  if_neg (Bool.eq_false_iff.mp hfixed)

/-! No change of the entries changes which places are fixed. -/

@[simp]
theorem isFixed_erase (store : Store) (place other : Path) :
    (store.erase place).isFixed other = store.isFixed other := rfl

@[simp]
theorem isFixed_put (store : Store) (place other : Path) (entry : Entry) :
    (store.put place entry).isFixed other = store.isFixed other := rfl

@[simp]
theorem isFixed_relocate (store : Store) (origin goal other : Path) :
    (store.relocate origin goal).isFixed other = store.isFixed other := rfl

theorem find?_erase_self (store : Store) {place : Path} (hfixed : store.isFixed place = false) :
    (store.erase place).find? place = none := by
  rw [find?_of_isFixed_eq_false (by rwa [isFixed_erase])]
  simp [erase]

theorem find?_erase_of_ne (store : Store) {place other : Path} (hne : other ≠ place) :
    (store.erase place).find? other = store.find? other := by
  simp only [find?, isFixed_erase]
  simp only [erase, List.find?_filter]
  congr 3
  funext item
  by_cases hitem : item.1 = other <;> simp [hitem, hne]

theorem find?_put_self (store : Store) (entry : Entry) (hfixed : store.isFixed place = false) :
    (store.put place entry).find? place = some entry := by
  rw [find?_of_isFixed_eq_false (by rwa [isFixed_put])]
  simp [put]

theorem find?_put_of_ne (store : Store) (entry : Entry) (hne : other ≠ place) :
    (store.put place entry).find? other = store.find? other := by
  rw [← store.find?_erase_of_ne hne]
  have hnew : decide (place = other) = false := decide_eq_false (Ne.symm hne)
  simp only [find?, isFixed_erase, put, List.find?_cons, hnew]
  rfl

theorem find?_ne_none_of_mem {item : Path × Entry} (hmem : item ∈ store.entries) :
    store.find? item.1 ≠ none := by
  unfold find?
  split_ifs
  · nofun
  · rw [ne_eq, Option.map_eq_none_iff, List.find?_eq_none]
    exact fun hnone ↦ hnone item hmem (decide_eq_true rfl)

end Find

/-! ### Trees -/

/-- Every entry stands in a directory. -/
def IsTree (store : Store) : Prop :=
  ∀ place, store.find? place ≠ none → store.find? place.parent = some .directory

section Tree

variable {store : Store} {place other origin goal : Path} {entry : Entry}

theorem isTree_iff : store.IsTree ↔
    ∀ item ∈ store.entries, store.find? item.1.parent = some .directory := by
  constructor
  · exact fun htree item hmem ↦ htree item.1 (find?_ne_none_of_mem hmem)
  · intro hentries place hplace
    unfold find? at hplace
    split_ifs at hplace with hfixed
    · exact find?_of_isFixed (isFixed_parent hfixed)
    · obtain ⟨item, hfound⟩ := Option.ne_none_iff_exists'.mp
        fun hnone ↦ hplace (Option.map_eq_none_iff.mpr hnone)
      have hsame : item.1 = place := by simpa using List.find?_some hfound
      rw [← hsame]
      exact hentries item (List.mem_of_find?_eq_some hfound)

theorem isWithin_iff : place.isWithin other = true ↔
    ∃ more, other = { place with names := place.names ++ more } := by
  rw [Path.isWithin, Bool.and_eq_true, decide_eq_true_iff, List.isPrefixOf_iff_prefix]
  constructor
  · rintro ⟨hroot, more, hmore⟩
    exact ⟨more, by rw [hmore, ← hroot]⟩
  · rintro ⟨more, rfl⟩
    exact ⟨rfl, List.prefix_append _ _⟩

/-- Nothing stands below what is not a directory. -/
theorem IsTree.find?_eq_none_below (htree : store.IsTree)
    (hplace : store.find? place ≠ some .directory) {more : List String} (hmore : more ≠ []) :
    store.find? { place with names := place.names ++ more } = none := by
  induction more using List.reverseRecOn with
  | nil => exact absurd rfl hmore
  | append_singleton more name ih =>
    by_contra hfound
    have hparent := htree _ hfound
    rw [Path.parent, ← List.append_assoc, List.dropLast_concat] at hparent
    rcases eq_or_ne more [] with rfl | hne
    · rw [List.append_nil] at hparent
      exact hplace hparent
    · rw [ih hne] at hparent
      cases hparent

theorem IsTree.eq_of_isWithin (htree : store.IsTree)
    (hplace : store.find? place ≠ some .directory) (hother : store.find? other ≠ none)
    (hwithin : place.isWithin other = true) : other = place := by
  obtain ⟨more, rfl⟩ := isWithin_iff.mp hwithin
  rcases eq_or_ne more [] with rfl | hmore
  · rw [List.append_nil]
  · exact absurd (htree.find?_eq_none_below hplace hmore) hother

theorem parent_ne (hfixed : store.isFixed place = false) : place.parent ≠ place := by
  intro hsame
  have hlength := congrArg (fun path : Path ↦ path.names.length) hsame
  have hnames : place.names ≠ [] := by
    intro hnil
    rw [isFixed, hnil] at hfixed
    cases hfixed
  have hpositive := List.length_pos_iff.mpr hnames
  simp only [Path.parent, List.length_dropLast] at hlength
  omega

/-- Something new in a directory, or a file in place of another, keeps a tree. -/
theorem IsTree.put (htree : store.IsTree) (hparent : store.find? place.parent = some .directory)
    (hplace : store.find? place ≠ some .directory) : (store.put place entry).IsTree := by
  have hne : place.parent ≠ place := parent_ne (isFixed_eq_false_of_find? hplace)
  intro other hother
  by_cases hsame : other = place
  · rw [hsame, find?_put_of_ne _ _ hne]
    exact hparent
  · rw [find?_put_of_ne _ _ hsame] at hother
    have hdirectory := htree other hother
    rw [find?_put_of_ne, hdirectory]
    rintro rfl
    exact hplace hdirectory

/-- Of the entries that are left when a place is cleared, each is found where it was moved to. -/
theorem find?_relocate_eq (store : Store) (origin goal : Path)
    (hplace : store.isFixed place = false) : (store.relocate origin goal).find? place =
      (store.entries.find? fun item ↦ !goal.isWithin item.1 ∧
        (if origin.isWithin item.1 then
          { goal with names := goal.names ++ origin.namesFrom item.1 }
        else item.1) = place).map (·.2) := by
  rw [find?_of_isFixed_eq_false (by rwa [isFixed_relocate]), relocate, List.find?_map, clear,
    List.find?_filter, Option.map_map]
  have hsecond : ∀ item : Path × Entry, (if origin.isWithin item.1 then
      ({ goal with names := goal.names ++ origin.namesFrom item.1 }, item.2)
      else item).2 = item.2 := fun item ↦ by split_ifs <;> rfl
  have hfirst : ∀ item : Path × Entry, (if origin.isWithin item.1 then
      ({ goal with names := goal.names ++ origin.namesFrom item.1 }, item.2)
      else item).1 = if origin.isWithin item.1 then
        { goal with names := goal.names ++ origin.namesFrom item.1 } else item.1 :=
    fun item ↦ by split_ifs <;> rfl
  simp only [Function.comp_def, hsecond, hfirst, decide_eq_true_eq]

/-- A file that is moved stands at its new place only, and nothing else changes. -/
theorem IsTree.find?_relocate (htree : store.IsTree) (horigin : store.find? origin = some entry)
    (hfile : entry ≠ .directory) (hgoal : store.find? goal ≠ some .directory)
    (hne : origin ≠ goal) (place : Path) : (store.relocate origin goal).find? place =
      if place = goal then some entry else if place = origin then none else store.find? place := by
  have hnotDirectory : store.find? origin ≠ some .directory := by
    rw [horigin]
    exact fun h ↦ hfile (Option.some.inj h)
  have hself : ∀ path : Path, path.isWithin path = true := fun path ↦
    isWithin_iff.mpr ⟨[], by rw [List.append_nil]⟩
  -- of the entries, the one at `origin` moves, the one at `goal` goes, and the others stay
  have hmoved : ∀ item ∈ store.entries, origin.isWithin item.1 = decide (item.1 = origin) := by
    refine fun item hmem ↦ Bool.eq_iff_iff.mpr ⟨fun hwithin ↦ decide_eq_true ?_, fun hsame ↦ ?_⟩
    · exact htree.eq_of_isWithin hnotDirectory (find?_ne_none_of_mem hmem) hwithin
    · rw [of_decide_eq_true hsame]
      exact hself origin
  have hcleared : ∀ item ∈ store.entries, goal.isWithin item.1 = decide (item.1 = goal) := by
    refine fun item hmem ↦ Bool.eq_iff_iff.mpr ⟨fun hwithin ↦ decide_eq_true ?_, fun hsame ↦ ?_⟩
    · exact htree.eq_of_isWithin hgoal (find?_ne_none_of_mem hmem) hwithin
    · rw [of_decide_eq_true hsame]
      exact hself goal
  have hwhole : origin.namesFrom origin = [] := List.drop_length
  by_cases hfixed : store.isFixed place = true
  · have hdirectory := find?_of_isFixed hfixed
    have hmovedFixed : (store.relocate origin goal).isFixed place = true := by
      rwa [isFixed_relocate]
    rw [find?_of_isFixed hmovedFixed, if_neg (by rintro rfl; exact hgoal hdirectory),
      if_neg (by rintro rfl; exact hnotDirectory hdirectory), hdirectory]
  have hfree := Bool.eq_false_iff.mpr hfixed
  rw [find?_relocate_eq store origin goal hfree]
  split_ifs with hatGoal hatOrigin
  · rw [← horigin, find?_of_isFixed_eq_false (isFixed_eq_false_of_find? hnotDirectory)]
    refine congrArg _ (List.find?_congr fun item hmem ↦ ?_)
    rw [hmoved item hmem, hcleared item hmem]
    by_cases hitem : item.1 = origin
    · simp [hitem, hne, hwhole, hatGoal]
    · simp +contextual [hitem, hatGoal]
  · rw [Option.map_eq_none_iff, List.find?_eq_none]
    intro item hmem
    rw [hmoved item hmem, hcleared item hmem]
    by_cases hitem : item.1 = origin
    · simp [hitem, hwhole, Ne.symm hatGoal]
    · simp [hitem, hatOrigin]
  · rw [find?_of_isFixed_eq_false hfree]
    refine congrArg _ (List.find?_congr fun item hmem ↦ ?_)
    rw [hmoved item hmem, hcleared item hmem]
    by_cases hitem : item.1 = origin
    · simp [hitem, hwhole, Ne.symm hatGoal, Ne.symm hatOrigin]
    · by_cases hsame : item.1 = place <;> simp [hitem, hsame, hatGoal, hatOrigin]

theorem IsTree.relocate (htree : store.IsTree) (horigin : store.find? origin = some entry)
    (hfile : entry ≠ .directory) (hgoal : store.find? goal ≠ some .directory)
    (hne : origin ≠ goal) (hparent : store.find? goal.parent = some .directory) :
    (store.relocate origin goal).IsTree := by
  have hfind := htree.find?_relocate horigin hfile hgoal hne
  have hdirectories : ∀ place, store.find? place = some .directory →
      (store.relocate origin goal).find? place = some .directory := by
    intro place hplace
    rw [hfind, if_neg (by rintro rfl; exact hgoal hplace), if_neg, hplace]
    rintro rfl
    rw [horigin] at hplace
    exact hfile (Option.some.inj hplace)
  intro place hplace
  refine hdirectories _ ?_
  rw [hfind] at hplace
  split_ifs at hplace with hatGoal hatOrigin
  · rw [hatGoal]
    exact hparent
  · exact absurd rfl hplace
  · exact htree place hplace

end Tree

end DeskAssistant.File.Store
