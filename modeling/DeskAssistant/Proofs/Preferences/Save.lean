import DeskAssistant.Preferences.File
import DeskAssistant.Proofs.File.Attempt

/-!
# A save that fails

A save makes the directory of the file, writes the document to a draft beside it and moves the draft
into place. `Saving` is what a save may do on a device that can fail at every step, and the save of
the model is one such course (`saving_save`). Up to the move the file is not touched, so a save
that fails loses nothing, and one that does not fail leaves the whole document
(`losesNothing_of_saving`).

A path that goes up again, like `a/../b/settings.json`, can lead nowhere before a save, for `a` is
missing, and to another file after it, for `a` was made (`not_load_eq_of_save`).
-/

set_option autoImplicit false
set_option relaxedAutoImplicit false

namespace DeskAssistant

/-! ### Drafts -/

namespace File.Path

/-- The suffix of the last name, which `stem` leaves away. -/
def suffix (path : Path) : String :=
  String.ofList (path.name.toList.drop (stem path.name.toList).length)

theorem exists_of_withSuffix? {path other : Path} {suffix : String}
    (h : path.withSuffix? suffix = some other) : ∃ names name,
      path.names = names ++ [name] ∧ path.name = name ∧
        other = ⟨path.root, names ++ [String.ofList (stem name.toList) ++ suffix]⟩ := by
  unfold withSuffix? at h
  cases hlast : path.names.getLast? with
  | none =>
    rw [hlast] at h
    cases h
  | some name =>
    rw [hlast] at h
    obtain ⟨names, hnames⟩ := List.getLast?_eq_some_iff.mp hlast
    refine ⟨names, name, hnames, ?_, ?_⟩
    · rw [Path.name, hlast]
      rfl
    · rw [← Option.some.inj h, hnames, List.dropLast_concat]

end File.Path

namespace PreferencesFile

open File

variable {file : PreferencesFile} {preferences : Preferences} {files middle after : Store}
  {draft place : Path} {result : Except Fault Unit} {fault : Fault}

/-- The draft is beside the file and under another name. -/
theorem exists_of_draft (hsuffix : file.path.suffix ≠ ".tmp") (h : file.draft = .ok draft) :
    ∃ names name other, file.path.names = names ++ [name] ∧
      draft = ⟨file.path.root, names ++ [other]⟩ ∧ other ≠ Path.above ∧ name ≠ other := by
  unfold PreferencesFile.draft at h
  cases hdraft : file.path.withSuffix? ".tmp" with
  | none =>
    rw [hdraft] at h
    cases h
  | some path =>
    rw [hdraft] at h
    obtain rfl := Except.ok.inj h
    obtain ⟨names, name, hnames, hname, hpath⟩ := Path.exists_of_withSuffix? hdraft
    refine ⟨names, name, _, hnames, hpath, fun habove ↦ ?_, fun hsame ↦ hsuffix ?_⟩
    · have hlength := congrArg (fun text : String ↦ text.toList.length) habove
      simp [Path.above] at hlength
    · rw [Path.suffix, hname]
      have htext : name.toList = Path.stem name.toList ++ ".tmp".toList := by
        conv_lhs => rw [hsame]
        rw [String.toList_append, String.toList_ofList]
      conv_lhs =>
        enter [1, 2]
        rw [htext]
      rw [List.drop_left]
      rfl

/-! ### Saving on a device that may fail -/

/-- What a save may do: the files after it, and how it ended. -/
inductive Saving (file : PreferencesFile) (preferences : Preferences) (files : Store) :
    Store → Except Fault Unit → Prop
  | tooDeep (h : preferences.isTooDeep = true) :
    Saving file preferences files files (.error .valueTooDeep)
  | unmade {after : Store} {fault : Fault}
      (hmake : files.Attempt (.makeDirectories file.path.parent) after (.error fault)) :
    Saving file preferences files after (.error fault)
  | nameless {after : Store} {fault : Fault}
      (hmake : files.Attempt (.makeDirectories file.path.parent) after (.ok ()))
      (hdraft : file.draft = .error fault) : Saving file preferences files after (.error fault)
  | replacing {middle after : Store} {draft : Path} {result : Except Fault Unit}
      (hmake : files.Attempt (.makeDirectories file.path.parent) middle (.ok ()))
      (hdraft : file.draft = .ok draft)
      (hreplace : middle.Attempts (file.replacing preferences.document draft) after result) :
    Saving file preferences files after result

/-- What a save does when the device does not fail. -/
theorem saving_save (file : PreferencesFile) (preferences : Preferences) (files : Store) :
    file.Saving preferences files (file.save preferences files).2.2
      (file.save preferences files).2.1 := by
  unfold save
  split_ifs with hdeep
  · exact .tooDeep hdeep
  · have hmake : files.Attempt (.makeDirectories file.path.parent) _ _ := .performed _
    rw [Store.perform] at hmake
    unfold replace
    rcases hmade : files.makeDirectories file.path.parent with ⟨made, fault | ⟨⟩⟩
    · rw [hmade] at hmake
      exact .unmade hmake
    · rw [hmade] at hmake
      cases hdraft : file.draft with
      | error fault => exact .nameless hmake hdraft
      | ok draft =>
        have hreplace := made.attempts_performAll (file.replacing preferences.document draft)
        dsimp only
        rcases hall : made.performAll (file.replacing preferences.document draft)
          with ⟨after, fault | ⟨⟩⟩
        · rw [hall] at hreplace
          exact .replacing hmake hdraft hreplace
        · rw [hall] at hreplace
          exact .replacing hmake hdraft hreplace

/-! ### Up to the move, and the move -/

/-- The directories above the file were made, as far as they were missing. -/
structure HasRoom (file : PreferencesFile) (files middle : Store) : Prop where
  extendsAlong : files.ExtendsAlong middle file.path.parent
  eq_of_walk : files.walk (files.start file.path) file.path.names ≠ .error .missing →
    middle = files

/-- Nothing else was done but perhaps to the draft. -/
def DiffersAtDraft (file : PreferencesFile) (middle after : Store) : Prop :=
  after = middle ∨ ∃ draft place content, file.draft = .ok draft ∧
    middle.resolve draft = .ok place ∧ middle.DiffersAt after place content

theorem DiffersAtDraft.keepsDirectories (hdiffers : file.DiffersAtDraft middle after) :
    middle.KeepsDirectories after := by
  obtain rfl | ⟨_, _, _, -, -, hdiffers⟩ := hdiffers
  · exact .refl _
  · exact hdiffers.keepsDirectories

theorem hasRoom_of_attempt
    (h : files.Attempt (.makeDirectories file.path.parent) middle result) :
    file.HasRoom files middle := by
  refine ⟨h.extendsAlong, fun hwalk ↦ ?_⟩
  rcases List.eq_nil_or_concat file.path.names with hnames | ⟨names, name, hnames⟩
  · have hparent : file.path.parent.names = [] := by rw [Path.parent, hnames, List.dropLast_nil]
    exact h.eq_of_nil hparent
  · rw [List.concat_eq_append] at hnames
    have hparent : file.path.parent.names = names := by
      rw [Path.parent, hnames, List.dropLast_concat]
    refine h.eq_of_walk (List.cons_ne_nil name []) ?_
    rw [hparent, ← hnames]
    exact hwalk

/-- What is as it was once there was room for the file was there before, or was made on the way. -/
theorem HasRoom.find?_cases (hroom : file.HasRoom files middle)
    (hkeeps : middle.KeepsDirectories after) (hsame : after.find? place = middle.find? place) :
    after.find? place = files.find? place ∨
      files.find? place = none ∧ after.find? place = some .directory ∧
        ∃ names, names <+: file.path.parent.names ∧
          after.place? ⟨file.path.root, names⟩ = .ok place := by
  rw [hsame]
  refine (hroom.extendsAlong.find?_cases place).imp_right ?_
  rintro ⟨hnone, hdirectory, names, hnames, hleads⟩
  exact ⟨hnone, hdirectory, names, hnames, hkeeps.place? hleads⟩

/-- Where a directory was missing on the way, directories were made at initial parts of the path,
and so nothing at its end, unless it goes up behind that directory. -/
theorem HasRoom.find?_eq_none {front behind reached : List String}
    (hroom : file.HasRoom files middle) (htree : files.IsTree)
    (hshort : files.StopsShort file.path front behind reached) (habove : Path.above ∉ behind) :
    middle.find? (.rooted (reached ++ behind)) = none := by
  have hplace : files.find? (.rooted reached) ≠ some .directory := by rw [hshort.find?_eq]; nofun
  have hnone : files.find? (.rooted (reached ++ behind)) = none :=
    htree.find?_eq_none_below hplace hshort.behind_ne_nil
  obtain hsame | ⟨-, -, names, hinitial, hleads⟩ :=
    hroom.extendsAlong.find?_cases (.rooted (reached ++ behind))
  · rw [hsame, hnone]
  have hkeeps := hroom.extendsAlong.keepsDirectories
  obtain ⟨-, -, hnames⟩ := Store.place?_eq_ok_iff.mp hleads
  change middle.walk (middle.start file.path) names = .ok (reached ++ behind) at hnames
  rw [hkeeps.start_eq] at hnames
  have hwithin : names <+: front ++ behind :=
    hshort.names_eq ▸ hinitial.trans (List.dropLast_prefix _)
  obtain ⟨more, hmore⟩ | ⟨part, rfl⟩ :=
    List.prefix_or_prefix_of_prefix hwithin (List.prefix_append front behind)
  · -- a part of `front` leads to directories that were there before
    have hfront := hshort.walk_eq
    rw [← hmore, Store.walk_append_eq_ok_iff] at hfront
    obtain ⟨between, hbetween, hrest⟩ := hfront
    obtain rfl := Except.ok.inj ((hkeeps.walk hbetween).symm.trans hnames)
    cases more with
    | nil =>
      have hsame := Except.ok.inj hrest
      exact absurd (List.append_right_eq_self.mp hsame) hshort.behind_ne_nil
    | cons name more =>
      rw [(Store.walk_cons_eq_ok_iff.mp hrest).1] at hnone
      cases hnone
  · -- what goes beyond `front` is shorter than `behind`
    obtain ⟨between, hbetween, hpart⟩ := Store.walk_append_eq_ok_iff.mp hnames
    obtain rfl := Except.ok.inj ((hkeeps.walk hshort.walk_eq).symm.trans hbetween)
    have hsub : part <+: behind := (List.prefix_append_right_inj front).mp hwithin
    have hsame := Store.eq_append_of_walk (fun hmem ↦ habove (hsub.subset hmem)) hpart
    have hlength := hinitial.length_le
    rw [Path.parent, List.length_dropLast, hshort.names_eq,
      ← List.append_cancel_left hsame] at hlength
    have hpositive := List.length_pos_iff.mpr hshort.behind_ne_nil
    simp only [List.length_append] at hlength
    omega

/-- Writing the draft and moving it: what was done, by how far it got. -/
theorem replacing_cases {document : String}
    (h : middle.Attempts (file.replacing document draft) after result) :
    (∃ fault, result = .error fault ∧ after = middle) ∨
    ∃ written place content, middle.resolve draft = .ok place ∧
      middle.DiffersAt written place content ∧
      ((∃ fault, result = .error fault ∧ after = written) ∨
        result = .ok () ∧ content = document.toUTF8 ∧
          written.rename draft file.path = .ok after) := by
  cases h with
  | failed hwrite =>
    obtain ⟨fault, hfault, hsame⟩ | ⟨place, content, hplace, hdiffers, -⟩ := hwrite.write_cases
    · exact Or.inl ⟨fault, hfault, hsame⟩
    · exact Or.inr ⟨_, place, content, hplace, hdiffers, Or.inl ⟨_, rfl, rfl⟩⟩
  | cons hwrite hmove =>
    obtain ⟨_, hfault, -⟩ | ⟨place, content, hplace, hdiffers, hcontent⟩ := hwrite.write_cases
    · cases hfault
    refine Or.inr ⟨_, place, content, hplace, hdiffers, ?_⟩
    cases hmove with
    | failed hrename =>
      obtain ⟨fault, hfault, hsame⟩ | ⟨hok, -⟩ := hrename.rename_cases
      · exact Or.inl ⟨fault, hfault, hsame⟩
      · cases hok
    | cons hrename hend =>
      obtain ⟨fault, hfault, -⟩ | ⟨-, hmoved⟩ := hrename.rename_cases
      · cases hfault
      · cases hend
        exact Or.inr ⟨rfl, hcontent rfl, hmoved⟩

theorem exists_of_saving_error (h : file.Saving preferences files after (.error fault)) :
    ∃ middle, file.HasRoom files middle ∧ file.DiffersAtDraft middle after := by
  cases h with
  | tooDeep => exact ⟨files, ⟨.refl files _, fun _ ↦ rfl⟩, Or.inl rfl⟩
  | unmade hmake => exact ⟨after, hasRoom_of_attempt hmake, Or.inl rfl⟩
  | nameless hmake => exact ⟨after, hasRoom_of_attempt hmake, Or.inl rfl⟩
  | replacing hmake hdraft hreplace =>
    refine ⟨_, hasRoom_of_attempt hmake, ?_⟩
    obtain ⟨_, -, hsame⟩ | ⟨written, place, content, hplace, hdiffers, hend⟩ :=
      replacing_cases hreplace
    · exact Or.inl hsame
    · obtain ⟨_, -, rfl⟩ | ⟨hok, -⟩ := hend
      · exact Or.inr ⟨_, place, content, hdraft, hplace, hdiffers⟩
      · cases hok

/-- The file and its draft lead to different places. -/
theorem place_ne_of_draft {store : Store} {goal : Path} (hsuffix : file.path.suffix ≠ ".tmp")
    (hdraft : file.draft = .ok draft) (hplace : store.place? draft = .ok place)
    (hgoal : store.place? file.path = .ok goal) : place ≠ goal := by
  obtain ⟨names, name, other, hnames, rfl, hother, hne⟩ := exists_of_draft hsuffix hdraft
  obtain ⟨-, -, hwalk⟩ := Store.place?_eq_ok_iff.mp hplace
  obtain ⟨-, -, hwalkGoal⟩ := Store.place?_eq_ok_iff.mp hgoal
  rw [hnames] at hwalkGoal
  exact fun hsame ↦ Store.walk_ne_of_beside hother hne hwalkGoal hwalk (by rw [hsame])

theorem exists_of_saving_ok (htree : files.IsTree) (hsuffix : file.path.suffix ≠ ".tmp")
    (h : file.Saving preferences files after (.ok ())) :
    ∃ middle draft origin goal, file.HasRoom files middle ∧ file.draft = .ok draft ∧
      middle.Moved after draft file.path origin goal preferences.document.toUTF8 := by
  generalize hresult : (Except.ok () : Except Fault Unit) = result at h
  cases h with
  | tooDeep | unmade | nameless => cases hresult
  | @replacing middle _ draft _ hmake hdraft hreplace =>
    subst hresult
    have hroom := hasRoom_of_attempt hmake
    obtain ⟨_, hfault, -⟩ | ⟨written, place, content, hplace, hdiffers, hend⟩ :=
      replacing_cases hreplace
    · cases hfault
    obtain ⟨_, hfault, -⟩ | ⟨-, rfl, hmoved⟩ := hend
    · cases hfault
    obtain ⟨goal, hgoal⟩ := Store.moved_of_rename (hroom.extendsAlong.isTree htree) hplace hdiffers
      hmoved fun goal hgoal ↦ place_ne_of_draft hsuffix hdraft
        (Store.resolve_eq_ok_iff.mp (hdiffers.keepsDirectories.resolve hplace)).2
        (Store.resolve_eq_ok_iff.mp hgoal).2
    exact ⟨middle, draft, place, goal, hroom, hdraft, hgoal⟩

/-! ### What a path shows -/

/-- What stands where a path leads, and whether the path can be walked at all, is the same. -/
structure SameView (store next : Store) (path : Path) : Prop where
  place?_eq : next.place? path = store.place? path
  find?_eq : ∀ {place : Path}, store.place? path = .ok place →
    next.find? place = store.find? place

theorem SameView.entry?_eq {store next : Store} {path : Path} (h : SameView store next path) :
    next.entry? path = store.entry? path := by
  unfold Store.entry? Store.resolve
  rw [h.place?_eq]
  split_ifs
  · rfl
  · cases hplace : store.place? path with
    | ok place => exact h.find?_eq hplace
    | error obstacle => rfl

theorem SameView.load_eq {store next : Store} (h : SameView store next file.path) :
    file.load next = file.load store := by
  have hoccupied : next.occupied file.path = store.occupied file.path := by
    unfold Store.occupied
    rw [h.place?_eq]
    split_ifs
    · rfl
    · cases hplace : store.place? file.path with
      | ok place => simp only [h.find?_eq hplace]
      | error obstacle => cases obstacle <;> rfl
  have hread : next.read file.path = store.read file.path := by
    unfold Store.read Store.resolve
    rw [h.place?_eq]
    split_ifs
    · rfl
    · cases hplace : store.place? file.path with
      | ok place => simp only [bind, Except.bind, h.find?_eq hplace]
      | error obstacle => rfl
  unfold load readText
  rw [hoccupied, hread]

/-- Where no directory on the way is missing, the file is untouched. -/
theorem sameView_of_place? (hsuffix : file.path.suffix ≠ ".tmp") (hroom : file.HasRoom files middle)
    (hdiffers : file.DiffersAtDraft middle after)
    (hplace : files.place? file.path ≠ .error .missing) : SameView files after file.path := by
  by_cases hlong : Store.pathLimit ≤ file.path.toString.utf8ByteSize
  · have hnowhere : ∀ store : Store, store.place? file.path = .error .tooLong := fun store ↦
      Store.place?_eq_error_iff.mpr (Or.inl ⟨hlong, rfl⟩)
    refine ⟨by rw [hnowhere, hnowhere], fun hplace ↦ ?_⟩
    rw [hnowhere] at hplace
    cases hplace
  have hwalk : files.walk (files.start file.path) file.path.names ≠ .error .missing :=
    fun hmissing ↦ hplace (Store.place?_eq_error_iff.mpr (Or.inr ⟨not_le.mp hlong, hmissing⟩))
  obtain rfl := hroom.eq_of_walk hwalk
  obtain rfl | ⟨draft, place, content, hdraft, hdraftPlace, hdiffers⟩ := hdiffers
  · exact ⟨rfl, fun _ ↦ rfl⟩
  have hdraftPlace' := (Store.resolve_eq_ok_iff.mp hdraftPlace).2
  refine ⟨?_, fun {goal} hgoal ↦ hdiffers.find?_of_ne fun hsame ↦
    place_ne_of_draft hsuffix hdraft hdraftPlace' hgoal hsame.symm⟩
  obtain ⟨names, name, other, hnames, rfl, -⟩ := exists_of_draft hsuffix hdraft
  have hsame : after.walk (middle.start file.path) (names ++ [name]) =
      middle.walk (middle.start file.path) (names ++ [name]) :=
    hdiffers.keepsDirectories.walk_beside (Store.place?_eq_ok_iff.mp hdraftPlace').2.2
  rw [Store.place?_eq, Store.place?_eq, hdiffers.keepsDirectories.start_eq, hnames, hsame]

section Failed

variable {front behind reached : List String} (htree : files.IsTree)
  (hsuffix : file.path.suffix ≠ ".tmp") (hroom : file.HasRoom files middle)
  (hdiffers : file.DiffersAtDraft middle after)

include htree hsuffix hroom hdiffers

/-- Where a directory is missing on the way, there is no file after the save either, unless the path
goes up behind it. -/
theorem find?_eq_none_of_missing {goal : Path}
    (hshort : files.StopsShort file.path front behind reached) (habove : Path.above ∉ behind)
    (hgoal : after.place? file.path = .ok goal) : after.find? goal = none := by
  have hkeeps := hroom.extendsAlong.keepsDirectories.trans hdiffers.keepsDirectories
  obtain ⟨-, hroot, hwalk⟩ := Store.place?_eq_ok_iff.mp hgoal
  rw [hkeeps.start_eq, hshort.names_eq, Store.walk_append_eq_ok_iff] at hwalk
  obtain ⟨between, hfront, hbehind⟩ := hwalk
  obtain rfl := Except.ok.inj ((hkeeps.walk hshort.walk_eq).symm.trans hfront)
  have hnames : goal.names = reached ++ behind := Store.eq_append_of_walk habove hbehind
  have hmiddle := hroom.find?_eq_none htree hshort habove
  rw [← hnames, Path.rooted, ← hroot] at hmiddle
  obtain rfl | ⟨draft, place, content, hdraft, hdraftPlace, hdiffers⟩ := hdiffers
  · exact hmiddle
  · have hdraftPlace' := (Store.resolve_eq_ok_iff.mp
      (hdiffers.keepsDirectories.resolve hdraftPlace)).2
    rw [hdiffers.find?_of_ne fun hsame ↦
      place_ne_of_draft hsuffix hdraft hdraftPlace' hgoal hsame.symm]
    exact hmiddle

theorem entry?_eq_of_missing (hplace : files.place? file.path = .error .missing)
    (hshort : files.StopsShort file.path front behind reached) (habove : Path.above ∉ behind) :
    after.entry? file.path = files.entry? file.path := by
  have hbefore : files.entry? file.path = none := by
    unfold Store.entry? Store.resolve
    rw [hplace]
    split_ifs <;> rfl
  rw [hbefore, Store.entry?]
  split
  · next goal hgoal =>
    exact find?_eq_none_of_missing htree hsuffix hroom hdiffers hshort habove
      (Store.resolve_eq_ok_iff.mp hgoal).2
  · rfl

theorem load_eq_of_missing (hplace : files.place? file.path = .error .missing)
    (hshort : files.StopsShort file.path front behind reached) (habove : Path.above ∉ behind)
    (hfits : ∀ name ∈ behind, name.utf8ByteSize ≤ Store.nameLimit) :
    file.load after = file.load files := by
  have hbefore : files.occupied file.path = .ok false := by
    unfold Store.occupied
    rw [hplace]
    split_ifs <;> rfl
  have hkeeps := hroom.extendsAlong.keepsDirectories.trans hdiffers.keepsDirectories
  have hafter : after.occupied file.path = .ok false := by
    unfold Store.occupied
    split_ifs
    · rfl
    cases hgoal : after.place? file.path with
    | ok goal =>
      have hnone := find?_eq_none_of_missing htree hsuffix hroom hdiffers hshort habove hgoal
      simp only [hnone, Option.isSome_none]
    | error obstacle =>
      cases obstacle with
      | missing | notDirectory => rfl
      | tooLong =>
        obtain ⟨hpath, -⟩ | ⟨-, hwalk⟩ := Store.place?_eq_error_iff.mp hgoal
        · obtain ⟨-, ⟨⟩⟩ | ⟨hpath', -⟩ := Store.place?_eq_error_iff.mp hplace
          exact absurd hpath (not_le.mpr hpath')
        · -- the names in front can still be walked, so one behind them is too long
          rw [hkeeps.start_eq, hshort.names_eq, Store.walk_append, hkeeps.walk hshort.walk_eq]
            at hwalk
          obtain ⟨name, hmem, hlong⟩ := Store.exists_of_walk_tooLong hwalk
          exact absurd (hfits name hmem) (not_le.mpr hlong)
  unfold load
  rw [hbefore, hafter]

/-- A save that fails leaves what stands at the file, unless its path goes up behind a missing
directory. -/
theorem entry?_eq_of_failed (habove : ¬ files.IsBehindMissing file.path Path.above) :
    after.entry? file.path = files.entry? file.path := by
  by_cases hplace : files.place? file.path = .error .missing
  · obtain ⟨front, behind, reached, hshort, hbehind⟩ := Store.exists_stopsShort hplace
    exact entry?_eq_of_missing htree hsuffix hroom hdiffers hplace hshort
      fun hmem ↦ habove (hbehind Path.above hmem)
  · exact (sameView_of_place? hsuffix hroom hdiffers hplace).entry?_eq

theorem load_eq_of_failed (habove : ¬ files.IsBehindMissing file.path Path.above)
    (hfits : ∀ name, files.IsBehindMissing file.path name →
      name.utf8ByteSize ≤ Store.nameLimit) : file.load after = file.load files := by
  by_cases hplace : files.place? file.path = .error .missing
  · obtain ⟨front, behind, reached, hshort, hbehind⟩ := Store.exists_stopsShort hplace
    exact load_eq_of_missing htree hsuffix hroom hdiffers hplace hshort
      (fun hmem ↦ habove (hbehind Path.above hmem)) fun name hmem ↦ hfits name (hbehind name hmem)
  · exact (sameView_of_place? hsuffix hroom hdiffers hplace).load_eq

end Failed

/-! ### Nothing is lost -/

/-- What a save that ended with `result` did to the files. -/
structure LosesNothing (file : PreferencesFile) (preferences : Preferences) (files after : Store)
    (result : Except Fault Unit) : Prop where
  /-- A save without a fault leaves the whole new document. -/
  read_of_ok : result = .ok () → after.read file.path = .ok preferences.document.toUTF8
  /-- After a fault the path leads to what it led to, unless a directory on the way was missing and
  the path goes up behind it. -/
  entry?_of_error : ∀ {fault : Fault}, result = .error fault →
    ¬ files.IsBehindMissing file.path Path.above →
      after.entry? file.path = files.entry? file.path
  /-- What is loaded is then the same, unless a name behind a missing directory is too long. -/
  load_of_error : ∀ {fault : Fault}, result = .error fault →
    ¬ files.IsBehindMissing file.path Path.above →
      (∀ name, files.IsBehindMissing file.path name → name.utf8ByteSize ≤ Store.nameLimit) →
        file.load after = file.load files
  /-- Apart from the draft, and from the file after a save without a fault, nothing changed but that
  directories on the way to the file were made where nothing stood. -/
  find?_of_ne : ∀ {place : Path}, (result = .ok () → after.resolve file.path ≠ .ok place) →
    (∀ draft, file.draft = .ok draft → after.resolve draft ≠ .ok place) →
      after.find? place = files.find? place ∨
        files.find? place = none ∧ after.find? place = some .directory ∧
          ∃ names, names <+: file.path.parent.names ∧
            after.place? ⟨file.path.root, names⟩ = .ok place
  isTree : after.IsTree

theorem losesNothing_of_saving (htree : files.IsTree) (hsuffix : file.path.suffix ≠ ".tmp")
    (h : file.Saving preferences files after result) :
    file.LosesNothing preferences files after result := by
  cases result with
  | ok _ =>
    obtain ⟨middle, draft, origin, goal, hroom, hdraft, hmoved⟩ :=
      exists_of_saving_ok htree hsuffix h
    refine ⟨fun _ ↦ hmoved.read_eq, nofun, nofun, fun {place} hnotGoal hnotDraft ↦ ?_,
      hmoved.isTree⟩
    have hne : place ≠ origin := by
      rintro rfl
      exact hnotDraft draft hdraft hmoved.resolve_source
    have hneGoal : place ≠ goal := by
      rintro rfl
      exact hnotGoal rfl hmoved.resolve_target
    exact hroom.find?_cases hmoved.keepsDirectories (hmoved.find?_of_ne hne hneGoal)
  | error fault =>
    obtain ⟨middle, hroom, hdiffers⟩ := exists_of_saving_error h
    have htreeMiddle := hroom.extendsAlong.isTree htree
    refine ⟨nofun, fun _ habove ↦ entry?_eq_of_failed htree hsuffix hroom hdiffers habove,
      fun _ habove hfits ↦ load_eq_of_failed htree hsuffix hroom hdiffers habove hfits,
      fun {place} _ hnotDraft ↦ ?_, ?_⟩
    · obtain rfl | ⟨draft, origin, content, hdraft, horigin, hdiffers⟩ := hdiffers
      · exact hroom.extendsAlong.find?_cases place
      · refine hroom.find?_cases hdiffers.keepsDirectories (hdiffers.find?_of_ne ?_)
        rintro rfl
        exact hnotDraft draft hdraft (hdiffers.keepsDirectories.resolve horigin)
    · obtain rfl | ⟨draft, origin, content, -, horigin, hdiffers⟩ := hdiffers
      · exact htreeMiddle
      · exact hdiffers.isTree htreeMiddle (htreeMiddle.find?_parent_of_place?
          (Store.resolve_eq_ok_iff.mp horigin).2)

/-- A store with a preferences file in the working directory. -/
def keptFiles : Store where
  entries := [(.rooted ["home", "settings.json"],
    .file "\x7b\"provider\": \"gemini\"\x7d".toUTF8 false)]
  workingDirectory := ["home"]
  noNul := by decide

/-- The device is full once the draft is made, and the preferences are as before. -/
theorem losesNothing_fullDevice :
    let file : PreferencesFile := ⟨⟨"", ["settings.json"]⟩⟩
    ∃ after fault, file.Saving {} keptFiles after (.error fault) ∧
      after.find? (.rooted ["home", "settings.tmp"]) = some (.file .empty false) ∧
      file.load after = file.load keptFiles := by
  intro file
  let fault : Fault := .os (.numbered 28 "No space left on device" none)
  obtain ⟨after, hwrite⟩ : ∃ after,
      keptFiles.write ⟨"", ["settings.tmp"]⟩ .empty = .ok after := ⟨_, rfl⟩
  have hattempt : keptFiles.Attempt
      (.write ⟨"", ["settings.tmp"]⟩ (.empty ++ ({} : Preferences).document.toUTF8)) after
      (.error fault) := .writtenInPart _ hwrite fault
  rw [ByteArray.empty_append] at hattempt
  have hsaving : file.Saving {} keptFiles after (.error fault) :=
    .replacing (.performed (.makeDirectories file.path.parent)) rfl (.failed hattempt _)
  have hlost := losesNothing_of_saving (Store.isTree_iff.mpr (by decide)) (by decide) hsaving
  have hwalked : keptFiles.place? file.path ≠ .error .missing := by decide
  refine ⟨after, fault, hsaving, ?_, hlost.load_of_error rfl (fun h ↦ hwalked h.1)
    fun _ h ↦ absurd h.1 hwalked⟩
  obtain rfl := Except.ok.inj hwrite
  rfl

/-! ### Paths that go up -/

/-- The directory `a` is not there, so the path leads nowhere. -/
def climbing : PreferencesFile := ⟨⟨"", ["a", "..", "b", "settings.json"]⟩⟩

/-- A directory stands where the draft would be. -/
def climbingFiles : Store where
  entries := [(.rooted ["b"], .directory),
    (.rooted ["b", "settings.json"], .file "\x7b\"provider\": \"gemini\"\x7d".toUTF8 false),
    (.rooted ["b", "settings.tmp"], .directory)]

/-- A save that fails can change what is loaded: it makes `a`, and the path then leads to a file
that was there before. -/
theorem not_load_eq_of_save : ¬ ∀ (file : PreferencesFile) (preferences : Preferences)
    (files : Store) (fault : Fault), files.IsTree → file.path.suffix ≠ ".tmp" →
      (file.save preferences files).2.1 = .error fault →
        file.load (file.save preferences files).2.2 = file.load files := by
  intro hload
  have hfails : (climbing.save {} climbingFiles).2.1 =
      .error (.os (.isDirectory (some "a/../b/settings.tmp"))) := by
    decide +kernel
  have hsame := hload climbing {} climbingFiles _ (Store.isTree_iff.mpr (by decide)) (by decide)
    hfails
  have hproviders := congrArg (fun loaded ↦ loaded.2.toOption.map (·.provider)) hsame
  revert hproviders
  decide +kernel

end PreferencesFile

end DeskAssistant
