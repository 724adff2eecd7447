import DeskAssistant.Proofs.Json.RoundTrip
import DeskAssistant.Proofs.Preferences.Load
import DeskAssistant.Proofs.Preferences.Save
import DeskAssistant.Proofs.Text.CodeUnit

/-!
# Saving what was loaded

Preferences that were loaded name one of the two agents, and their switches are orderly values
(`isLoadable_of_load`). If they can be saved and hold no real number, they are loaded again as they
were, the draft is gone, and saving them once more leaves the same bytes (`stable_of_load`). What a
switch holds may be any value, however deep.
-/

set_option autoImplicit false
set_option relaxedAutoImplicit false

namespace DeskAssistant

namespace Preferences

variable {preferences : Preferences}

/-! ### Preferences as they are loaded -/

/-- The preferences could have been loaded. -/
structure IsLoadable (preferences : Preferences) : Prop where
  isKnown : preferences.provider = "codex" ∨ preferences.provider = "gemini"
  isOrderly : ∀ toggle : Toggle, (toggle.value preferences).IsOrderly

theorem isLoadable_default : IsLoadable {} :=
  ⟨Or.inl rfl, fun toggle ↦ by cases toggle <;> exact .truth _⟩

theorem isLoadable_ofMembers {members : Json.Members}
    (h : ∀ member ∈ members, member.2.IsOrderly) : (ofMembers members).IsLoadable := by
  refine ⟨knownProvider_cases _, fun toggle ↦ ?_⟩
  rw [toggle.value_ofMembers]
  cases hfound : members.get? toggle.key with
  | none => exact .truth _
  | some value =>
    obtain ⟨before, after, rfl, -⟩ := List.lookup_eq_some_iff.mp hfound
    exact h (Text.codeUnits toggle.key, value)
      (List.mem_append_right _ List.mem_cons_self)

theorem isLoadable_of_ofDocument {path document : String}
    (h : (ofDocument path document).2 = .ok preferences) : preferences.IsLoadable := by
  rw [snd_ofDocument] at h
  split at h
  · next members hread =>
    obtain rfl := Except.ok.inj h
    cases Json.isOrderly_of_read hread with
    | object _ horderly => exact isLoadable_ofMembers horderly
  · rw [← Except.ok.inj h]
    exact isLoadable_default
  · rw [← Except.ok.inj h]
    exact isLoadable_default
  · cases h
  · cases h

/-! ### The document of preferences -/

theorem knownProvider_ofString {provider : String}
    (h : provider = "codex" ∨ provider = "gemini") :
    knownProvider (some (.ofString provider)) = provider := by
  rcases h with rfl | rfl
  · refine (knownProvider_cases _).resolve_right fun hgemini ↦ ?_
    have hsame := Option.some.inj ((knownProvider_eq_gemini_iff _).mp hgemini)
    have htext := Text.codeUnits_injective (Json.Value.text.inj hsame)
    revert htext
    decide
  · exact (knownProvider_eq_gemini_iff _).mpr rfl

theorem get?_members (preferences : Preferences) :
    preferences.members.get? providerKey = some (.ofString preferences.provider) ∧
      ∀ toggle : Toggle,
        preferences.members.get? toggle.key = some (toggle.value preferences) := by
  have hunits : ∀ first second : String,
      Text.codeUnits first = Text.codeUnits second ↔ first = second := fun first second ↦
    ⟨Text.codeUnits_injective, congrArg Text.codeUnits⟩
  refine ⟨?_, fun toggle ↦ ?_⟩
  · simp [Json.Members.get?, members, Json.Members.ofList, Json.lookup_putMember, hunits,
      providerKey, datasetKey, lastErrorKey, scriptKey, toolsKey, versionKey]
  · cases toggle <;>
      simp [Json.Members.get?, members, Json.Members.ofList, Json.lookup_putMember, hunits,
        providerKey, datasetKey, lastErrorKey, scriptKey, toolsKey, versionKey, Toggle.key,
        Toggle.value]

/-- Preferences are their agent and what their switches hold. -/
theorem eq_of_value_eq {other : Preferences} (hprovider : preferences.provider = other.provider)
    (hvalue : ∀ toggle : Toggle, toggle.value preferences = toggle.value other) :
    preferences = other := by
  obtain ⟨provider, dataset, lastError, script, tools⟩ := preferences
  obtain ⟨provider', dataset', lastError', script', tools'⟩ := other
  obtain rfl : provider = provider' := hprovider
  obtain rfl : dataset = dataset' := hvalue .includeDataset
  obtain rfl : lastError = lastError' := hvalue .includeLastError
  obtain rfl : script = script' := hvalue .includeScript
  obtain rfl : tools = tools' := hvalue .enableTools
  rfl

/-- The members that are written mean the same preferences. -/
theorem ofMembers_members (h : preferences.IsLoadable) :
    ofMembers preferences.members = preferences := by
  obtain ⟨hprovider, htoggle⟩ := preferences.get?_members
  refine eq_of_value_eq ?_ fun toggle ↦ ?_
  · change knownProvider (preferences.members.get? providerKey) = _
    rw [hprovider, knownProvider_ofString h.isKnown]
  · rw [toggle.value_ofMembers, htoggle, Option.getD_some]

/-- Nothing is written but the agent, what the switches hold, and the version. -/
theorem forall_mem_members (p : Json.Value → Prop) (hprovider : p (.ofString preferences.provider))
    (htoggle : ∀ toggle : Toggle, p (toggle.value preferences)) (hversion : p (.integer version)) :
    ∀ member ∈ preferences.members, p member.2 := by
  intro member hmember
  obtain ⟨item, hitem, hvalue⟩ := Json.Members.exists_of_mem_ofList hmember
  rw [← hvalue]
  simp only [List.mem_cons, List.not_mem_nil, or_false] at hitem
  rcases hitem with rfl | rfl | rfl | rfl | rfl | rfl
  · exact hprovider
  · exact htoggle .includeDataset
  · exact htoggle .includeLastError
  · exact htoggle .includeScript
  · exact htoggle .enableTools
  · exact hversion

theorem levels_le_of_isTooDeep (h : preferences.isTooDeep = false) (toggle : Toggle) :
    (toggle.value preferences).levels ≤ levelLimit := by
  rw [isTooDeep, List.any_eq_false] at h
  have hvalue := h (toggle.value preferences) (by cases toggle <;> simp [Toggle.value])
  simpa using hvalue

/-- What is written is read as the members of the preferences. -/
theorem read_document (hloadable : preferences.IsLoadable) (hdeep : preferences.isTooDeep = false)
    (hreal : ∀ toggle : Toggle, (toggle.value preferences).holdsReal = false) :
    Json.read preferences.document = .ok (.object preferences.members) := by
  refine Json.read_write ?_ ?_ ?_
  · refine .object (Json.Members.areOrdered_ofList _) (forall_mem_members Json.Value.IsOrderly
      (.text _) hloadable.isOrderly (.integer ?_))
    exact Nat.one_lt_pow (by decide) (by decide)
  · exact Json.Value.membersHoldReal_eq_false_iff.mpr
      (forall_mem_members (·.holdsReal = false) rfl hreal rfl)
  · have hlevels : Json.Value.memberLevels preferences.members ≤ levelLimit :=
      Json.Value.memberLevels_le_iff.mpr (forall_mem_members (·.levels ≤ levelLimit)
        (Nat.zero_le _) (levels_le_of_isTooDeep hdeep) (Nat.zero_le _))
    calc Json.Value.memberLevels preferences.members + 1 ≤ levelLimit + 1 :=
          Nat.succ_le_succ hlevels
      _ ≤ Json.Reader.levelLimit := by decide

end Preferences

namespace PreferencesFile

open File

variable {file : PreferencesFile} {preferences : Preferences} {files middle saved : Store}
  {draft origin goal : Path} {document : String}

/-- What is loaded could be loaded. -/
theorem isLoadable_of_load (h : (file.load files).2 = .ok preferences) :
    preferences.IsLoadable := by
  unfold load at h
  split at h
  · cases h
  · rw [← Except.ok.inj h]
    exact Preferences.isLoadable_default
  · split at h
    · cases h
    · exact Preferences.isLoadable_of_ofDocument h

/-! ### One save after the other -/

theorem performAll_replacing_eq_ok_iff :
    middle.performAll (file.replacing document draft) = (saved, .ok ()) ↔
      ∃ written, middle.write draft document.toUTF8 = .ok written ∧
        written.rename draft file.path = .ok saved := by
  rw [replacing, Store.performAll, Store.perform]
  cases middle.write draft document.toUTF8 with
  | error fault => exact iff_of_false (by rintro ⟨⟩) (by rintro ⟨_, ⟨⟩, _⟩)
  | ok written =>
    simp only [Store.settle, Store.performAll, Store.perform, Except.ok.injEq]
    cases hrename : written.rename draft file.path with
    | error fault =>
      refine iff_of_false (by rintro ⟨⟩) ?_
      rintro ⟨_, rfl, hmoved⟩
      cases hrename.symm.trans hmoved
    | ok moved => simp [hrename]

/-- A save goes well if each of its steps does. -/
theorem save_eq_ok_iff : (file.save preferences files).2 = (.ok (), saved) ↔
    preferences.isTooDeep = false ∧ ∃ middle draft,
      files.makeDirectories file.path.parent = (middle, .ok ()) ∧ file.draft = .ok draft ∧
        middle.performAll (file.replacing preferences.document draft) = (saved, .ok ()) := by
  unfold save replace
  cases preferences.isTooDeep with
  | true => exact iff_of_false (by rintro ⟨⟩) fun h ↦ Bool.noConfusion h.1
  | false =>
    rw [if_neg Bool.false_ne_true]
    rcases files.makeDirectories file.path.parent with ⟨middle, fault | ⟨⟩⟩
    · exact iff_of_false (by rintro ⟨⟩) (by rintro ⟨-, _, _, ⟨⟩, _⟩)
    cases file.draft with
    | error fault => exact iff_of_false (by rintro ⟨⟩) (by rintro ⟨-, _, _, -, ⟨⟩, _⟩)
    | ok draft =>
      dsimp only
      constructor
      · intro h
        refine ⟨rfl, middle, draft, rfl, rfl, ?_⟩
        revert h
        rcases middle.performAll (file.replacing preferences.document draft)
          with ⟨moved, fault | ⟨⟩⟩
        · rintro ⟨⟩
        · rintro ⟨⟩
          rfl
      · rintro ⟨-, _, _, ⟨⟩, ⟨⟩, hall⟩
        rw [hall]

/-- A save that goes well makes the directory, writes the draft and moves it. -/
theorem exists_moved_of_save (htree : files.IsTree) (hsuffix : file.path.suffix ≠ ".tmp")
    (h : (file.save preferences files).2 = (.ok (), saved)) :
    ∃ (made : Store) (draft origin goal : Path),
      files.makeDirectories file.path.parent = (made, .ok ()) ∧ file.draft = .ok draft ∧
        made.Moved saved draft file.path origin goal preferences.document.toUTF8 := by
  obtain ⟨-, made, draft, hmade, hdraft, hall⟩ := save_eq_ok_iff.mp h
  obtain ⟨written, hwrite, hrename⟩ := performAll_replacing_eq_ok_iff.mp hall
  obtain ⟨origin, horigin, hdiffers⟩ := Store.exists_of_write hwrite
  have hextends := files.extendsAlong_makeDirectories file.path.parent
  rw [hmade] at hextends
  obtain ⟨goal, hmoved⟩ := Store.moved_of_rename (hextends.isTree htree) horigin hdiffers hrename
    fun goal hgoal ↦ place_ne_of_draft hsuffix hdraft
      (Store.resolve_eq_ok_iff.mp (hdiffers.keepsDirectories.resolve horigin)).2
      (Store.resolve_eq_ok_iff.mp hgoal).2
  exact ⟨made, draft, origin, goal, hmade, hdraft, hmoved⟩

/-- Where a file was saved, it can be saved again. -/
theorem exists_save_again (htree : files.IsTree) (hsuffix : file.path.suffix ≠ ".tmp")
    (h : (file.save preferences files).2 = (.ok (), saved)) {next : Preferences}
    (hnext : next.isTooDeep = false) : ∃ again, (file.save next saved).2 = (.ok (), again) := by
  obtain ⟨made, draft, origin, goal, hmade, hdraft, hmoved⟩ :=
    exists_moved_of_save htree hsuffix h
  obtain ⟨written, again, hwrite, hrename⟩ := hmoved.exists_again next.document.toUTF8
  exact ⟨again, save_eq_ok_iff.mpr ⟨hnext, saved, draft,
    Store.makeDirectories_again hmade hmoved.keepsDirectories, hdraft,
    performAll_replacing_eq_ok_iff.mpr ⟨written, hwrite, hrename⟩⟩⟩

/-- What a save leaves of preferences that were loaded. -/
structure Stable (file : PreferencesFile) (preferences : Preferences) (saved : Store) : Prop where
  /-- They are loaded again as they were. -/
  load_eq : (file.load saved).2 = .ok preferences
  /-- The draft is gone. -/
  occupied_draft : ∃ draft, file.draft = .ok draft ∧ saved.occupied draft = .ok false
  /-- They can be saved once more, which leaves the same bytes. -/
  saves_again : ∃ again, (file.save preferences saved).2 = (.ok (), again) ∧
    ∃ bytes, saved.read file.path = .ok bytes ∧ again.read file.path = .ok bytes

/-- Saving what was loaded is stable. -/
theorem stable_of_load (htree : files.IsTree) (hsuffix : file.path.suffix ≠ ".tmp")
    (hload : (file.load files).2 = .ok preferences)
    (hreal : ∀ toggle : Toggle, (toggle.value preferences).holdsReal = false)
    (hsave : (file.save preferences files).2 = (.ok (), saved)) :
    file.Stable preferences saved := by
  have hdeep : preferences.isTooDeep = false := (save_eq_ok_iff.mp hsave).1
  have hloadable := isLoadable_of_load hload
  obtain ⟨_, draft, origin, goal, -, hdraft, hmoved⟩ := exists_moved_of_save htree hsuffix hsave
  refine ⟨?_, ⟨draft, hdraft, ?_⟩, ?_⟩
  · rw [load_of_object hmoved.read_eq (Preferences.read_document hloadable hdeep hreal),
      Preferences.ofMembers_members hloadable]
  · rw [Store.occupied_of_resolve hmoved.resolve_source, hmoved.find?_origin, Option.isSome_none]
  · obtain ⟨again, hagain⟩ := exists_save_again htree hsuffix hsave hdeep
    obtain ⟨_, _, _, _, -, -, hmoved'⟩ := exists_moved_of_save hmoved.isTree hsuffix hagain
    exact ⟨again, hagain, _, hmoved.read_eq, hmoved'.read_eq⟩

/-- A switch holds empty values, a long number, a text that is written with escapes, and an object
that gives a key twice. -/
def nestedDocument : String :=
  "\x7b\"provider\": \"gemini\", \"include_script\": [[], \x7b\x7d, " ++
    "\x7b\"b\": 1, \"a\": \"\\ud83d\\ude00\\n\", \"b\": -18446744073709551617\x7d]\x7d"

theorem stable_nestedDocument : ∃ preferences saved,
    (settings.load (storing nestedDocument.toUTF8)).2 = .ok preferences ∧
      preferences.provider = "gemini" ∧ preferences.includeScript.levels = 2 ∧
        (settings.save preferences (storing nestedDocument.toUTF8)).2 = (.ok (), saved) ∧
          settings.Stable preferences saved := by
  have hcheck : (settings.load (storing nestedDocument.toUTF8)).2.toOption.any (fun preferences ↦
      (preferences.provider = "gemini" && preferences.includeScript.levels = 2) &&
        ((Toggle.all.all fun toggle ↦ !(toggle.value preferences).holdsReal) &&
          (settings.save preferences (storing nestedDocument.toUTF8)).2.1.isOk)) = true := by
    decide +kernel
  cases hload : (settings.load (storing nestedDocument.toUTF8)).2 with
  | error fault =>
    rw [hload] at hcheck
    cases hcheck
  | ok preferences =>
    rw [hload, Except.toOption, Option.any_some] at hcheck
    simp only [Bool.and_eq_true, decide_eq_true_eq, List.all_eq_true, Bool.not_eq_true'] at hcheck
    obtain ⟨⟨hprovider, hlevels⟩, hreal, hok⟩ := hcheck
    rcases hsave : (settings.save preferences (storing nestedDocument.toUTF8)).2
      with ⟨fault | ⟨⟩, saved⟩
    · rw [hsave] at hok
      cases hok
    · exact ⟨preferences, saved, rfl, hprovider, hlevels, hsave,
        stable_of_load (Store.isTree_iff.mpr (by decide)) (by decide) hload
          (fun toggle ↦ hreal toggle (by cases toggle <;> decide)) hsave⟩

end PreferencesFile

end DeskAssistant
