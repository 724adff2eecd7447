import DeskAssistant.Panel.Widget
import DeskAssistant.Preferences.File
import DeskAssistant.Proofs.Json.Limits
import DeskAssistant.Proofs.Text.Utf8

/-!
# What is loaded from a preferences file

A preferences file can be edited by hand and can hold any bytes. Bytes that are no text, and
documents beyond the limits of the reader, are a fault. Anything else gives preferences, and the
defaults unless it is an object (`PreferencesFile.loads_unless_obstructed`). An object gives one of
the two agents, but a switch that is no truth value is taken over as it stands
(`PreferencesFile.loads_object`).
-/

set_option autoImplicit false
set_option relaxedAutoImplicit false

namespace DeskAssistant

/-- A file that can be read is there. -/
theorem File.Store.occupied_of_read {files : File.Store} {path : File.Path} {content : ByteArray}
    (h : files.read path = .ok content) : files.occupied path = .ok true := by
  unfold File.Store.read at h
  cases hresolve : files.resolve path with
  | error fault =>
    rw [hresolve] at h
    cases h
  | ok place =>
    rw [hresolve] at h
    have hfound : (files.find? place).isSome = true := by
      cases hfind : files.find? place with
      | none =>
        simp only [bind, Except.bind, hfind] at h
        cases h
      | some entry => rfl
    unfold File.Store.resolve at hresolve
    split_ifs at hresolve with hnul
    unfold File.Store.occupied
    rw [if_neg hnul]
    split at hresolve
    · next hplace =>
      obtain rfl := Except.ok.inj hresolve
      rw [hplace, ← hfound]
    · cases hresolve

/-! ### Documents -/

/-- The members of the object that was read. -/
def Json.members? : Except Refusal Value → Option Members
  | .ok (.object members) => some members
  | _ => none

theorem Json.members?_eq_some_iff {result : Except Refusal Value} {members : Members} :
    members? result = some members ↔ result = .ok (.object members) := by
  unfold members?
  split
  · simp
  · next hother =>
    refine iff_of_false nofun ?_
    rintro rfl
    exact hother _ rfl

namespace Preferences

variable {path document : String}

/-- Whatever a document is read as decides what it means. -/
theorem snd_ofDocument : (ofDocument path document).2 =
    match Json.read document with
    | .ok (.object members) => .ok (ofMembers members)
    | .ok _ | .error .malformed => .ok {}
    | .error (.digits fault) => .error (.digits fault)
    | .error (.tooDeep isObject) => .error (.documentTooDeep isObject) := by
  unfold ofDocument membersOf
  cases Json.read document with
  | error refusal => cases refusal <;> rfl
  | ok value =>
    cases value with
    | object members => cases members <;> rfl
    | _ => rfl

theorem exists_ofDocument_iff :
    (∃ preferences, (ofDocument path document).2 = .ok preferences) ↔
      ¬ Json.HitsLimit document := by
  rw [← Json.read_refuses_iff, snd_ofDocument]
  split <;> simp_all

theorem eq_default_of_ofDocument {preferences : Preferences}
    (h : (ofDocument path document).2 = .ok preferences)
    (hobject : ∀ members, Json.read document ≠ .ok (.object members)) : preferences = {} := by
  rw [snd_ofDocument] at h
  split at h
  · next members hread => exact absurd hread (hobject members)
  all_goals cases h
  all_goals rfl

end Preferences

namespace PreferencesFile

variable {file : PreferencesFile} {files : File.Store}

theorem load_of_read {content : ByteArray} (hread : files.read file.path = .ok content) :
    file.load files =
      match Text.Utf8.decodeStrict content with
      | some document =>
        Preferences.ofDocument file.path.toString (Text.unifyLineEnds document)
      | none => ([], .error (.undecodable (Text.Utf8.flaw content))) := by
  rw [load, File.Store.occupied_of_read hread]
  dsimp only
  rw [readText, hread]
  dsimp only
  cases Text.Utf8.decodeStrict content <;> rfl

theorem load_of_text {document : String} (hread : files.read file.path = .ok document.toUTF8) :
    file.load files =
      Preferences.ofDocument file.path.toString (Text.unifyLineEnds document) := by
  rw [load_of_read hread, Text.Utf8.decodeStrict_eq_some_iff.mpr rfl]

theorem load_of_no_text {content : ByteArray} (hread : files.read file.path = .ok content)
    (htext : ∀ document : String, content ≠ document.toUTF8) :
    file.load files = ([], .error (.undecodable (Text.Utf8.flaw content))) := by
  have hnone : Text.Utf8.decodeStrict content = none :=
    Option.eq_none_iff_forall_ne_some.mpr fun document hdocument ↦
      htext document (Text.Utf8.decodeStrict_eq_some_iff.mp hdocument)
  rw [load_of_read hread, hnone]

theorem load_of_object {document : String} {members : Json.Members}
    (hread : files.read file.path = .ok document.toUTF8)
    (hobject : Json.read document = .ok (.object members)) :
    (file.load files).2 = .ok (Preferences.ofMembers members) := by
  rw [← Json.read_unifyLineEnds] at hobject
  rw [load_of_text hread, Preferences.snd_ofDocument, hobject]

/-- Preferences are loaded from a text within the limits and from nothing else. They are those of
the object in it, and the defaults where there is none. -/
theorem loads_unless_obstructed {content : ByteArray}
    (hread : files.read file.path = .ok content) :
    ((∃ preferences, (file.load files).2 = .ok preferences) ↔
        ∃ document : String, content = document.toUTF8 ∧ ¬ Json.HitsLimit document) ∧
      (∀ preferences, (file.load files).2 = .ok preferences →
        (∀ (document : String) (members : Json.Members), content = document.toUTF8 →
          Json.read document ≠ .ok (.object members)) → preferences = {}) ∧
      ∀ (document : String) (members : Json.Members), content = document.toUTF8 →
        Json.read document = .ok (.object members) →
          (file.load files).2 = .ok (Preferences.ofMembers members) := by
  by_cases htext : ∃ document : String, content = document.toUTF8
  · obtain ⟨document, rfl⟩ := htext
    have hload := load_of_text hread
    refine ⟨?_, fun preferences hpreferences hobject ↦ ?_, fun same members hsame hobject ↦ ?_⟩
    · rw [hload, Preferences.exists_ofDocument_iff, Json.hitsLimit_unifyLineEnds]
      constructor
      · exact fun hlimit ↦ ⟨document, rfl, hlimit⟩
      · rintro ⟨same, hsame, hlimit⟩
        rwa [String.toByteArray_inj.mp hsame]
    · rw [hload] at hpreferences
      refine Preferences.eq_default_of_ofDocument hpreferences fun members hread ↦ ?_
      rw [Json.read_unifyLineEnds] at hread
      exact hobject document members rfl hread
    · rw [hsame] at hread
      exact load_of_object hread hobject
  · have hload := load_of_no_text hread fun document hdocument ↦ htext ⟨document, hdocument⟩
    rw [hload]
    refine ⟨iff_of_false (by rintro ⟨_, ⟨⟩⟩) ?_, by rintro _ ⟨⟩, fun document _ hdocument ↦ ?_⟩
    · rintro ⟨document, hdocument, _⟩
      exact htext ⟨document, hdocument⟩
    · exact absurd ⟨document, hdocument⟩ htext

/-- A file at the root. -/
def settings : PreferencesFile := ⟨.rooted ["settings.json"]⟩

/-- The files where nothing but the settings are stored. -/
def storing (content : ByteArray) : File.Store :=
  { entries := [(settings.path, .file content false)] }

theorem read_storing (content : ByteArray) :
    (storing content).read settings.path = .ok content := rfl

/-- A broken document means the defaults. -/
theorem loads_broken : (settings.load (storing "\x7bnot json".toUTF8)).2 = .ok {} := by
  obtain ⟨hloads, hdefaults, -⟩ := loads_unless_obstructed (read_storing "\x7bnot json".toUTF8)
  obtain ⟨preferences, hload⟩ :=
    hloads.mpr ⟨"\x7bnot json", rfl, Json.not_hitsLimit_of_length_le (by decide)⟩
  rw [hload, hdefaults preferences hload]
  intro document members hdocument hobject
  have hnone : (Json.members? (Json.read "\x7bnot json")).isNone = true := by decide +kernel
  rw [String.toByteArray_inj.mp hdocument, hobject] at hnone
  cases hnone

/-- A byte that is no text is a fault. -/
theorem load_undecodable : settings.load (storing ⟨#[0xff]⟩) =
    ([], .error (.undecodable ⟨0, [0xff], .startByte⟩)) := by
  rfl

end PreferencesFile

/-! ### Switches -/

/-- The value is true or false. -/
def Json.Value.isTruth : Json.Value → Bool
  | .truth _ => true
  | _ => false

namespace Toggle

variable (toggle : Toggle) (members : Json.Members)

/-- The key under which the toggle is stored. -/
def key : Toggle → String
  | includeDataset => Preferences.datasetKey
  | includeLastError => Preferences.lastErrorKey
  | includeScript => Preferences.scriptKey
  | enableTools => Preferences.toolsKey

/-- The value of the toggle among preferences. -/
def value (preferences : Preferences) : Toggle → Json.Value
  | includeDataset => preferences.includeDataset
  | includeLastError => preferences.includeLastError
  | includeScript => preferences.includeScript
  | enableTools => preferences.toolsEnabled

/-- How the toggle stands where nothing is stored. -/
def standard : Bool := (toggle.value {}).isTrue

/-- How the toggle is meant to stand: as it is stored, or by the standard where no truth value is
stored. -/
def choice : Bool :=
  match members.get? toggle.key with
  | some (.truth truth) => truth
  | _ => toggle.standard

/-- Nothing but a truth value is stored for the toggle. -/
def IsSound : Prop := ∀ value ∈ members.get? toggle.key, value.isTruth = true

instance : Decidable (toggle.IsSound members) :=
  inferInstanceAs (Decidable (∀ value ∈ members.get? toggle.key, value.isTruth = true))

theorem value_ofMembers : toggle.value (Preferences.ofMembers members) =
    (members.get? toggle.key).getD (.truth toggle.standard) := by
  cases toggle <;> rfl

/-- A toggle that is loaded stands as it is meant to unless something else is stored for it. -/
theorem getD_eq_choice_iff :
    (members.get? toggle.key).getD (.truth toggle.standard) = .truth (toggle.choice members) ↔
      toggle.IsSound members := by
  unfold choice IsSound
  cases members.get? toggle.key with
  | none => simp
  | some value => cases value <;> simp [Json.Value.isTruth]

end Toggle

/-! ### Objects -/

namespace Preferences

/-- What loading an object gives. -/
structure TakenFrom (members : Json.Members) (preferences : Preferences) : Prop where
  /-- The agent is one of the two. -/
  isKnown : preferences.provider = "codex" ∨ preferences.provider = "gemini"
  /-- The second one is meant by its name alone. -/
  provider_eq_iff : preferences.provider = "gemini" ↔
    members.get? providerKey = some (.ofString "gemini")
  /-- A toggle is what is stored for it, whatever that is. -/
  value_eq : ∀ toggle : Toggle, toggle.value preferences =
    (members.get? toggle.key).getD (.truth toggle.standard)
  /-- So it stands as it is meant to unless something else than a truth value is stored. -/
  value_eq_choice_iff : ∀ toggle : Toggle,
    toggle.value preferences = .truth (toggle.choice members) ↔ toggle.IsSound members
  /-- Without such values a panel can be made, and it shows the preferences. -/
  panel_eq : (∀ toggle : Toggle, toggle.IsSound members) → ∀ checkBox : CheckBox,
    ∃ panel, Panel.ofPreferences checkBox preferences = .ok panel ∧
      panel.provider.name = preferences.provider ∧
      ∀ toggle : Toggle, toggle.get panel.options = toggle.choice members

theorem knownProvider_eq_gemini_iff (value : Option Json.Value) :
    knownProvider value = "gemini" ↔ value = some (.ofString "gemini") := by
  unfold knownProvider
  split
  · next units => simp [Json.Value.ofString]
  · next hother =>
    refine iff_of_false (by decide) ?_
    rintro rfl
    exact hother _ rfl

theorem knownProvider_cases (value : Option Json.Value) :
    knownProvider value = "codex" ∨ knownProvider value = "gemini" := by
  unfold knownProvider
  split
  · split_ifs
    · exact Or.inr rfl
    · exact Or.inl rfl
  · exact Or.inl rfl

/-- A panel offers both agents. -/
theorem name_provider_fresh {agent : String} (h : agent = "codex" ∨ agent = "gemini")
    (options : Prompt.Options) : (Panel.fresh agent options).provider.name = agent := by
  rcases h with rfl | rfl <;> rfl

/-- Truth values can be shown by any check box. -/
theorem exists_ofPreferences_eq (checkBox : CheckBox) {preferences : Preferences}
    {choice : Toggle → Bool}
    (h : ∀ toggle : Toggle, toggle.value preferences = .truth (choice toggle)) :
    ∃ options, Panel.ofPreferences checkBox preferences =
        .ok (.fresh preferences.provider options) ∧
      ∀ toggle : Toggle, toggle.get options = choice toggle := by
  have hshown (toggle : Toggle) :
      checkBox.shown (toggle.value preferences) = .ok (choice toggle) := by
    rw [h toggle, checkBox.shown_truth]
  refine ⟨⟨choice .includeDataset, choice .includeLastError, choice .includeScript,
    choice .enableTools⟩, ?_, fun toggle ↦ by cases toggle <;> rfl⟩
  have hdataset := hshown .includeDataset
  have hlastError := hshown .includeLastError
  have hscript := hshown .includeScript
  have htools := hshown .enableTools
  dsimp only [Toggle.value] at hdataset hlastError hscript htools
  simp only [Panel.ofPreferences, options, hdataset, hlastError, hscript, htools]
  rfl

theorem takenFrom_ofMembers (members : Json.Members) : TakenFrom members (ofMembers members) where
  isKnown := knownProvider_cases _
  provider_eq_iff := knownProvider_eq_gemini_iff _
  value_eq toggle := toggle.value_ofMembers members
  value_eq_choice_iff toggle := by
    rw [toggle.value_ofMembers, toggle.getD_eq_choice_iff]
  panel_eq hsound checkBox := by
    obtain ⟨options, hpanel, hoptions⟩ := exists_ofPreferences_eq checkBox fun toggle ↦
      (toggle.value_ofMembers members).trans
        ((toggle.getD_eq_choice_iff members).mpr (hsound toggle))
    exact ⟨_, hpanel, name_provider_fresh (knownProvider_cases _) options, hoptions⟩

end Preferences

/-- An object that can be read is always loaded. -/
theorem PreferencesFile.loads_object {file : PreferencesFile} {files : File.Store}
    {document : String} {members : Json.Members}
    (hread : files.read file.path = .ok document.toUTF8)
    (hobject : Json.read document = .ok (.object members)) :
    ∃ preferences, (file.load files).2 = .ok preferences ∧
      Preferences.TakenFrom members preferences :=
  ⟨Preferences.ofMembers members, load_of_object hread hobject,
    Preferences.takenFrom_ofMembers members⟩

namespace PreferencesFile

def geminiDocument : String :=
  "\x7b\"include_script\": true, \"provider\": \"gemini\", \"version\": 7\x7d"

/-- The other toggles stand as by default. -/
theorem loads_geminiDocument : ∃ preferences,
    (settings.load (storing geminiDocument.toUTF8)).2 = .ok preferences ∧
      preferences.provider = "gemini" ∧ ∀ toggle : Toggle,
        toggle.value preferences = .truth (toggle = .includeScript || toggle.standard) := by
  have hcheck : (Json.members? (Json.read geminiDocument)).any (fun members ↦
      Preferences.knownProvider (members.get? Preferences.providerKey) = "gemini" &&
        Toggle.all.all fun toggle ↦ toggle.IsSound members &&
          toggle.choice members = (toggle = .includeScript || toggle.standard)) = true := by
    decide +kernel
  cases hmembers : Json.members? (Json.read geminiDocument) with
  | none =>
    rw [hmembers] at hcheck
    cases hcheck
  | some members =>
    rw [hmembers, Option.any_some, Bool.and_eq_true, decide_eq_true_eq, List.all_eq_true] at hcheck
    obtain ⟨hprovider, htoggles⟩ := hcheck
    obtain ⟨preferences, hload, htaken⟩ :=
      loads_object (read_storing geminiDocument.toUTF8) (Json.members?_eq_some_iff.mp hmembers)
    refine ⟨preferences, hload, ?_, fun toggle ↦ ?_⟩
    · exact htaken.provider_eq_iff.mpr
        ((Preferences.knownProvider_eq_gemini_iff _).mp hprovider)
    · have htoggle := htoggles toggle (by cases toggle <;> decide)
      rw [Bool.and_eq_true, decide_eq_true_eq, decide_eq_true_eq] at htoggle
      rw [(htaken.value_eq_choice_iff toggle).mpr htoggle.1, htoggle.2]

/-- The text that a toggle was loaded as. -/
def loadedText? (toggle : Toggle) :
    Except Fault Preferences → Option (List Text.CodeUnit)
  | .ok preferences =>
    match toggle.value preferences with
    | .text units => some units
    | _ => none
  | .error _ => none

/-- A text that is stored for a toggle is loaded. -/
theorem loadedText?_no : loadedText? .includeDataset
    (settings.load (storing "\x7b\"include_dataset\": \"no\"\x7d".toUTF8)).2 =
      some (Text.codeUnits "no") := by
  decide +kernel

end PreferencesFile

end DeskAssistant
