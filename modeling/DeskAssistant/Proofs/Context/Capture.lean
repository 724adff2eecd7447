import DeskAssistant.Context.LiveSource
import DeskAssistant.Json.Shown
import DeskAssistant.Proofs.Sequence
import Mathlib.Data.List.Nodup

/-!
# Snapshots of live sources

A snapshot asks each reader of a live source once, in a fixed order (`LiveSource.Calls`), and what
one reader does reaches no field but its own: a failure leaves this field missing, a value is shown
as a text and cut to the limit of the field (`ContextField.kept`). So the field of a snapshot is a
function of how the call of its own reader has ended (`LiveSource.Captures.get_eq`), whatever the
other readers return and even if they fail.

There is no snapshot when a reader returns a value that cannot be shown. The fault of showing it
ends the call, and the readers behind it are not called (`LiveSource.Breaks`); an integer of more
than 4300 digits is such a value (`LiveSource.captureLive_wideCount`).
-/

set_option autoImplicit false
set_option relaxedAutoImplicit false

namespace DeskAssistant

/-! ### The text that a field keeps -/

/-- What a field keeps of a text: the command log its last 200000 characters behind the line of the
marker, every other field its first 32000 in front of the marker. -/
def ContextField.kept : ContextField → String → String
  | commandLog, text =>
    if text.length ≤ 200000 then text
    else "...[truncated]...\n" ++ String.ofList (text.toList.drop (text.length - 200000))
  | _, text =>
    if text.length ≤ 32000 then text
    else String.ofList (text.toList.take 32000) ++ "\n...[truncated]...\n"

theorem ContextField.cap_eq_kept (field : ContextField) (text : String) :
    field.cap text = field.kept text := by
  cases field with
  | commandLog => exact Text.capTail_natCast text (show 0 < 200000 by decide)
  | _ => exact Text.capHead_natCast text 32000

theorem Snapshot.get_capture (source : ContextSource) (field : ContextField) :
    (capture source).2.get field = (source field).text?.map field.cap := by
  cases field <;> rfl

namespace LiveSource

variable {σ ν : Type}

/-! ### Calls of readers -/

/-- How the call of a reader ends. -/
abbrev Outcome (ν : Type) := Except Fault (Returned ν)

/-- Readers are called one after the other, each in the session that the one before has left. -/
inductive Calls (source : LiveSource σ ν) : σ → List (ContextField × Outcome ν) → σ → Prop where
  | done (state : σ) : Calls source state [] state
  | next {state middle after : σ} {field : ContextField} {outcome : Outcome ν}
      {rest : List (ContextField × Outcome ν)}
      (hcall : source.reader field state = (outcome, middle))
      (hrest : Calls source middle rest after) :
      Calls source state ((field, outcome) :: rest) after

/-- What is read when the call of a reader has ended so. -/
def readingOf (source : LiveSource σ ν) : Outcome ν → Except Fault Reading
  | .ok returned => source.reading returned
  | .error _ => .ok .failed

/-- The text that the call of a reader gives, if it gives one; a value may have none to show. -/
def textOf (shown : ν → Except Fault String) : Outcome ν → Except Fault (Option String)
  | .error _ => .ok none
  | .ok .nothing => .ok none
  | .ok (.text value) => .ok (some value)
  | .ok (.other value) => (shown value).map some

/-- The call of a reader has given no value that cannot be shown. -/
def Shows (source : LiveSource σ ν) (outcome : Outcome ν) : Prop :=
  ∃ text, textOf source.shown outcome = .ok text

theorem map_text?_readingOf (source : LiveSource σ ν) (outcome : Outcome ν) :
    (source.readingOf outcome).map Reading.text? = textOf source.shown outcome := by
  rcases outcome with fault | _ | value | value
  · rfl
  · rfl
  · rfl
  · simp only [readingOf, reading, textOf]
    cases source.shown value <;> rfl

theorem exists_readingOf_of_textOf {source : LiveSource σ ν} {outcome : Outcome ν}
    {text : Option String} (h : textOf source.shown outcome = .ok text) :
    ∃ reading, source.readingOf outcome = .ok reading ∧ reading.text? = text := by
  rw [← map_text?_readingOf] at h
  cases hreading : source.readingOf outcome with
  | error fault =>
    rw [hreading] at h
    cases h
  | ok reading =>
    rw [hreading] at h
    exact ⟨reading, rfl, Except.ok.inj h⟩

/-- Only a value that is no text can fail to be shown. -/
theorem exists_shown_eq_of_not_shows {source : LiveSource σ ν} {outcome : Outcome ν}
    (h : ¬ source.Shows outcome) :
    ∃ value fault, outcome = .ok (.other value) ∧ source.shown value = .error fault := by
  rcases outcome with fault | _ | text | value
  · exact absurd ⟨none, rfl⟩ h
  · exact absurd ⟨none, rfl⟩ h
  · exact absurd ⟨some text, rfl⟩ h
  · cases hshown : source.shown value with
    | error fault => exact ⟨value, fault, rfl, hshown⟩
    | ok text =>
      refine absurd ⟨some text, ?_⟩ h
      rw [textOf, hshown]
      rfl

variable {source : LiveSource σ ν} {state after : σ} {calls : List (ContextField × Outcome ν)}
  {fields : List ContextField}

/-- The call of a reader in front of those that follow it gives a value that cannot be shown. -/
def BreaksAt (source : LiveSource σ ν) (fields : List ContextField) (fault : Fault)
    (calls : List (ContextField × Outcome ν)) : Prop :=
  ∃ before field value rest, calls = before ++ [(field, .ok (.other value))] ∧
    fields = before.map Prod.fst ++ field :: rest ∧ (∀ call ∈ before, source.Shows call.2) ∧
    source.shown value = .error fault

/-- Readers can be called in order until one of them gives a value that cannot be shown. -/
theorem exists_calls (source : LiveSource σ ν) (fields : List ContextField) (state : σ) :
    ∃ calls after, source.Calls state calls after ∧
      ((calls.map Prod.fst = fields ∧ ∀ call ∈ calls, source.Shows call.2) ∨
        ∃ fault, source.BreaksAt fields fault calls) := by
  induction fields generalizing state with
  | nil => exact ⟨[], state, .done state, Or.inl ⟨rfl, by simp⟩⟩
  | cons field fields ih =>
    by_cases hshows : source.Shows (source.reader field state).1
    · obtain ⟨calls, after, hcalls, hends⟩ := ih (source.reader field state).2
      refine ⟨_, after, .next rfl hcalls, ?_⟩
      rcases hends with ⟨rfl, hall⟩ | ⟨fault, before, last, value, rest, rfl, rfl, hall, hshown⟩
      · exact Or.inl ⟨rfl, List.forall_mem_cons.mpr ⟨hshows, hall⟩⟩
      · exact Or.inr ⟨fault, _ :: before, last, value, rest, rfl, rfl,
          List.forall_mem_cons.mpr ⟨hshows, hall⟩, hshown⟩
    · obtain ⟨value, fault, hvalue, hshown⟩ := exists_shown_eq_of_not_shows hshows
      refine ⟨[(field, .ok (.other value))], _, .next (Prod.ext hvalue rfl) (.done _), Or.inr ?_⟩
      exact ⟨fault, [], field, value, fields, rfl, rfl, by simp, hshown⟩

/-- A list that is kept beside the session holds the fields whose readers were called. -/
theorem Calls.logged (h : source.Calls state calls after) (noted : List ContextField) :
    source.logged.Calls (state, noted) calls (after, noted ++ calls.map Prod.fst) := by
  induction h generalizing noted with
  | done state =>
    rw [List.map_nil, List.append_nil]
    exact .done _
  | @next state middle after field outcome rest hcall _ ih =>
    have hlogged : source.logged.reader field (state, noted) =
        (outcome, middle, noted ++ [field]) := by
      change ((source.reader field state).1, (source.reader field state).2, noted ++ [field]) = _
      rw [hcall]
    rw [List.map_cons, List.append_cons]
    exact .next hlogged (ih (noted ++ [field]))

/-! ### Reading -/

theorem read_of_call {field : ContextField} {middle : σ} {outcome : Outcome ν}
    (hcall : source.reader field state = (outcome, middle)) :
    source.read field state = (source.readingOf outcome, middle) := by
  rw [read, Sequence.bind_apply, Sequence.tryCatch_apply, Sequence.map_apply, hcall]
  cases outcome <;> rfl

/-- Reading stops at the first field whose reading ends in a fault. -/
theorem readAll_cons (source : LiveSource σ ν) (field : ContextField) (fields : List ContextField)
    (state : σ) :
    source.readAll (field :: fields) state =
      match source.read field state with
      | (.error fault, middle) => (([], some fault), middle)
      | (.ok reading, middle) =>
        let ((readings, fault), after) := source.readAll fields middle
        (((field, reading) :: readings, fault), after) := by
  rw [readAll]
  cases hread : source.read field state with
  | mk outcome middle =>
    simp only [bind, StateT.bind, ExceptT.run, hread]
    cases outcome <;> rfl

/-- What is read by calls that ended so, when each of their values can be shown. -/
def readings (source : LiveSource σ ν) (calls : List (ContextField × Outcome ν)) :
    List (ContextField × Reading) :=
  calls.map fun call ↦ (call.1, (source.readingOf call.2).toOption.getD .failed)

/-- Reading goes on behind calls whose values can be shown, whatever the readers did. -/
theorem Calls.readAll_append (h : source.Calls state calls after)
    (hshows : ∀ call ∈ calls, source.Shows call.2) (fields : List ContextField) :
    source.readAll (calls.map Prod.fst ++ fields) state =
      let ((rest, fault), final) := source.readAll fields after
      ((source.readings calls ++ rest, fault), final) := by
  induction h with
  | done state => rfl
  | @next state middle after field outcome calls hcall _ ih =>
    obtain ⟨⟨text, htext⟩, hrest⟩ := List.forall_mem_cons.mp hshows
    obtain ⟨reading, hreading, -⟩ := exists_readingOf_of_textOf htext
    have hread : source.read field state = (.ok reading, middle) := by
      rw [read_of_call hcall, hreading]
    rw [List.map_cons, List.cons_append, readAll_cons, hread]
    dsimp only
    rw [ih hrest]
    simp only [readings, List.map_cons, hreading]
    rfl

/-- When every value can be shown, all of it is read. -/
theorem Calls.readAll (h : source.Calls state calls after)
    (hshows : ∀ call ∈ calls, source.Shows call.2) :
    source.readAll (calls.map Prod.fst) state = ((source.readings calls, none), after) := by
  have hall := h.readAll_append hshows []
  rw [List.append_nil] at hall
  rw [hall]
  exact congrArg (fun readings ↦ ((readings, none), after)) (List.append_nil _)

theorem Calls.exists_of_append {later : List (ContextField × Outcome ν)}
    (h : source.Calls state (calls ++ later) after) :
    ∃ middle, source.Calls state calls middle ∧ source.Calls middle later after := by
  induction calls generalizing state with
  | nil => exact ⟨state, .done state, h⟩
  | cons call calls ih =>
    cases h with
    | next hcall hrest =>
      obtain ⟨middle, hcalls, hlater⟩ := ih hrest
      exact ⟨middle, .next hcall hcalls, hlater⟩

/-- A value that cannot be shown ends the reading. -/
theorem Calls.readAll_of_breaksAt {fault : Fault} (h : source.Calls state calls after)
    (hbreaks : source.BreaksAt fields fault calls) :
    ∃ readings, source.readAll fields state = ((readings, some fault), after) := by
  obtain ⟨before, field, value, rest, rfl, rfl, hshows, hshown⟩ := hbreaks
  obtain ⟨middle, hbefore, hlast⟩ := h.exists_of_append
  cases hlast with
  | next hcall hdone =>
    cases hdone
    have hread : source.read field middle = (.error fault, after) := by
      rw [read_of_call hcall, readingOf, reading, hshown]
      rfl
    rw [hbefore.readAll_append hshows, readAll_cons, hread]
    exact ⟨_, rfl⟩

theorem lookup_of_mem (hfields : (calls.map Prod.fst).Nodup) {field : ContextField}
    {outcome : Outcome ν} (hcall : (field, outcome) ∈ calls) :
    (source.readings calls).lookup field =
      some ((source.readingOf outcome).toOption.getD .failed) := by
  induction calls with
  | nil => cases hcall
  | cons first rest ih =>
    rw [List.map_cons, List.nodup_cons] at hfields
    rw [readings, List.map_cons]
    obtain rfl | hrest := List.mem_cons.mp hcall
    · rw [List.lookup_cons_self]
    · have hother : field ≠ first.1 := by
        rintro rfl
        exact hfields.1 (List.mem_map.mpr ⟨_, hrest, rfl⟩)
      rw [List.lookup_cons, beq_eq_false_iff_ne.mpr hother]
      exact ih hfields.2 hrest

/-! ### Snapshots -/

/-- A snapshot is taken: these calls are made, from one state of the session to the other, and
every value that they give can be shown. -/
structure Captures (source : LiveSource σ ν) (state : σ) (calls : List (ContextField × Outcome ν))
    (snapshot : Snapshot) (after : σ) : Prop where
  fields_eq : calls.map Prod.fst =
    [.datasetSummary, .lastError, .scriptSelection, .scriptFull, .commandLog, .lastModelSimple,
      .lastModelFull]
  made : source.Calls state calls after
  shows : ∀ call ∈ calls, source.Shows call.2
  returns : ∃ records, Snapshot.captureLive source state = ((records, .ok snapshot), after)
  /-- No reader is called a second time, as a list of all calls shows. -/
  logged : (Snapshot.captureLive source.logged (state, [])).2 = (after, calls.map Prod.fst)

/-- No snapshot is taken: these calls are made, up to the first that gives a value which cannot be
shown, and the fault of showing it is what comes out. -/
structure Breaks (source : LiveSource σ ν) (state : σ) (calls : List (ContextField × Outcome ν))
    (fault : Fault) (after : σ) : Prop where
  breaksAt : source.BreaksAt
    [.datasetSummary, .lastError, .scriptSelection, .scriptFull, .commandLog, .lastModelSimple,
      .lastModelFull] fault calls
  made : source.Calls state calls after
  raises : ∃ records, Snapshot.captureLive source state = ((records, .error fault), after)
  logged : (Snapshot.captureLive source.logged (state, [])).2 = (after, calls.map Prod.fst)

theorem Calls.captureLive (h : source.Calls state calls after)
    (hshows : ∀ call ∈ calls, source.Shows call.2)
    (hfields : calls.map Prod.fst = ContextField.all) :
    Snapshot.captureLive source state =
      (((Snapshot.capture fun field ↦ ((source.readings calls).lookup field).getD .missing).1,
        .ok (Snapshot.capture fun field ↦
          ((source.readings calls).lookup field).getD .missing).2), after) := by
  have hread := h.readAll hshows
  rw [hfields] at hread
  simp only [Snapshot.captureLive, bind, StateT.bind, hread]
  rfl

theorem Calls.captureLive_of_breaksAt {fault : Fault} (h : source.Calls state calls after)
    (hbreaks : source.BreaksAt ContextField.all fault calls) :
    ∃ records, Snapshot.captureLive source state = ((records, .error fault), after) := by
  obtain ⟨readings, hread⟩ := h.readAll_of_breaksAt hbreaks
  simp only [Snapshot.captureLive, bind, StateT.bind, hread]
  exact ⟨_, rfl⟩

/-- A snapshot is taken, or a value that cannot be shown breaks it off. -/
theorem captures_or_breaks (source : LiveSource σ ν) (state : σ) :
    (∃ calls snapshot after, source.Captures state calls snapshot after) ∨
      ∃ calls fault after, source.Breaks state calls fault after := by
  obtain ⟨calls, after, hmade, ⟨hfields, hshows⟩ | ⟨fault, hbreaks⟩⟩ :=
    exists_calls source ContextField.all state
  · have hlogged := (hmade.logged []).captureLive hshows hfields
    exact Or.inl ⟨calls, _, after, hfields, hmade, hshows, ⟨_, hmade.captureLive hshows hfields⟩,
      congrArg Prod.snd hlogged⟩
  · obtain ⟨_, hlogged⟩ :=
      (hmade.logged []).captureLive_of_breaksAt hbreaks
    exact Or.inr ⟨calls, fault, after, hbreaks, hmade, hmade.captureLive_of_breaksAt hbreaks,
      congrArg Prod.snd hlogged⟩

/-- A field of a snapshot is made of how the call of its own reader has ended. -/
theorem Captures.get_eq {snapshot : Snapshot} (h : source.Captures state calls snapshot after)
    {field : ContextField} {outcome : Outcome ν} (hcall : (field, outcome) ∈ calls) :
    ∃ text, textOf source.shown outcome = .ok text ∧ snapshot.get field = text.map field.kept := by
  obtain ⟨hfields, hmade, hshows, ⟨records, hreturns⟩, -⟩ := h
  have hnodup : (calls.map Prod.fst).Nodup := by
    rw [hfields]
    decide
  rw [hmade.captureLive hshows hfields] at hreturns
  obtain rfl : snapshot = (Snapshot.capture fun field ↦
      ((source.readings calls).lookup field).getD .missing).2 :=
    (Except.ok.inj (congrArg (fun taken ↦ taken.1.2) hreturns)).symm
  obtain ⟨text, htext⟩ := hshows _ hcall
  obtain ⟨reading, hreading, rfl⟩ := exists_readingOf_of_textOf htext
  refine ⟨_, htext, ?_⟩
  rw [Snapshot.get_capture, lookup_of_mem hnodup hcall, hreading, funext field.cap_eq_kept]
  rfl

theorem not_breaks_of_shown {fault : Fault}
    (hshown : ∀ field before value after,
      source.reader field before = (.ok (.other value), after) →
        ∃ text, source.shown value = .ok text) :
    ¬ source.Breaks state calls fault after := by
  rintro ⟨⟨before, field, value, rest, rfl, -, -, hfault⟩, hmade, -, -⟩
  obtain ⟨middle, -, hlast⟩ := hmade.exists_of_append
  cases hlast with
  | next hcall hdone =>
    obtain ⟨text, htext⟩ := hshown _ _ _ _ hcall
    rw [htext] at hfault
    cases hfault

/-- Whatever the readers of a source do, each stays to itself. -/
structure KeepsApart (source : LiveSource σ ν) (state : σ) : Prop where
  /-- A snapshot is taken unless a value that cannot be shown breaks it off. -/
  captures_or_breaks : (∃ calls snapshot after, source.Captures state calls snapshot after) ∨
    ∃ calls fault after, source.Breaks state calls fault after
  /-- Failures of readers break nothing off. -/
  exists_captures : (∀ field before value after,
    source.reader field before = (.ok (.other value), after) →
      ∃ text, source.shown value = .ok text) →
    ∃ calls snapshot after, source.Captures state calls snapshot after
  get_eq : ∀ calls snapshot after, source.Captures state calls snapshot after →
    ∀ field outcome, (field, outcome) ∈ calls →
      ∃ text, textOf source.shown outcome = .ok text ∧ snapshot.get field = text.map field.kept
  /-- In another session all other readers may do something else. -/
  get_congr : ∀ {τ : Type} (other : LiveSource τ ν) (otherState : τ),
    other.shown = source.shown →
    ∀ calls snapshot after otherCalls otherSnapshot otherAfter,
      source.Captures state calls snapshot after →
      other.Captures otherState otherCalls otherSnapshot otherAfter →
      ∀ field outcome, (field, outcome) ∈ calls → (field, outcome) ∈ otherCalls →
        otherSnapshot.get field = snapshot.get field

theorem keepsApart_of_capture (source : LiveSource σ ν) (state : σ) :
    source.KeepsApart state where
  captures_or_breaks := captures_or_breaks source state
  exists_captures hshown := (captures_or_breaks source state).resolve_right
    fun ⟨_, _, _, hbreaks⟩ ↦ not_breaks_of_shown hshown hbreaks
  get_eq _ _ _ hcaptures _ _ hcall := hcaptures.get_eq hcall
  get_congr other otherState hshown _ _ _ _ _ _ hcaptures hother _ _ hcall hotherCall := by
    obtain ⟨text, htext, hget⟩ := hcaptures.get_eq hcall
    obtain ⟨otherText, hotherText, hotherGet⟩ := hother.get_eq hotherCall
    rw [hshown, htext] at hotherText
    rw [hget, hotherGet, Except.ok.inj hotherText]

/-- A source whose dataset summary is an integer of 4301 digits and which has nothing else. -/
def wideCount : LiveSource Unit Json.Value where
  reader field :=
    pure (if field = .datasetSummary then .other (.integer (Nat.pow 10 4300)) else .nothing)
  shown := Json.shown

/-- Showing the integer ends the call before the second reader is called. -/
theorem captureLive_wideCount :
    Snapshot.captureLive wideCount.logged ((), []) =
      (([], .error .integerTooLong), (), [.datasetSummary]) := by
  change @Eq ((List Log.Record × Except Fault Snapshot) × Unit × List ContextField) _ _
  decide +kernel

end LiveSource

end DeskAssistant
