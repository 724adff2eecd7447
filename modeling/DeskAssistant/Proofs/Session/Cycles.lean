import DeskAssistant.Proofs.Job.Rounds
import DeskAssistant.Proofs.Session.Handoff

/-!
# Sessions and surfaces in step

What a surface has been told is a function of what became of the session's jobs. Each job that came
to its end has told the surface one cycle: busy, a status, the reply, not busy, no status, and then
the report; a job under way has told it the beginning of one. `Session.Kept` says this of a session
beside three lists, the calls to its surface, the numbers of its jobs and the results that were
applied to it; a job that begins and a result that is applied each add their part
(`Session.Kept.begin`, `Session.Kept.settle`), and nothing else adds any. `Desk.Paced` says it of
all sessions of a desk, and `paced_of_reachable` is the run lemma.
-/

set_option autoImplicit false
set_option relaxedAutoImplicit false

namespace DeskAssistant

/-! ### Cycles -/

namespace Session

/-- What the surface is told when a job begins. -/
def opening : List Notice := [.busy true, .status Desk.workingStatus]

/-- What the surface is told when a job has come to its end, and the report of its result. -/
def closing (reports : Bool) (result : Job.Result) : List Notice :=
  [.reply result.replyText, .busy false, .status ""] ++ if reports then [.finished result] else []

def cycle (reports : Bool) (result : Job.Result) : List Notice := opening ++ closing reports result

/-- The session is where these calls to its surface, these numbers of jobs and these applied
results lead. -/
structure Kept (session : Session) (calls : List Notice) (numbers : List Nat)
    (results : List Job.Result) : Prop where
  busy_eq : session.busy = session.active.isSome
  jobs_eq : session.jobs = results.length + session.busy.toNat
  numbers_eq : numbers = List.range' 1 session.jobs
  /-- A whole cycle for each result, and the beginning of one while the session is busy. -/
  calls_eq : calls =
    results.flatMap (cycle session.reports) ++ if session.busy then opening else []
  lastReply_eq : session.lastReply = (results.getLast?.map (·.replyText)).getD ""
  lastInsert_eq : session.lastInsert = (results.getLast?.map (·.insertText)).getD ""

variable {session : Session} {calls : List Notice} {numbers : List Nat}
  {results : List Job.Result}

theorem kept_fresh (inRegistry reports : Bool) (source : ContextSource) :
    (fresh inRegistry reports source).Kept [] [] [] :=
  ⟨rfl, rfl, rfl, rfl, rfl, rfl⟩

theorem Kept.sameWork {after : Session} (hkept : session.Kept calls numbers results)
    (hwork : session.SameWork after) : after.Kept calls numbers results := by
  rw [hwork.1]
  exact ⟨hkept.busy_eq, hkept.jobs_eq, hkept.numbers_eq, hkept.calls_eq, hkept.lastReply_eq,
    hkept.lastInsert_eq⟩

theorem Kept.begin (hkept : session.Kept calls numbers results) (hbusy : session.busy = false)
    (worker : Nat) :
    (session.begin worker).Kept (calls ++ opening) (numbers ++ [session.jobs + 1]) results where
  busy_eq := rfl
  jobs_eq := by
    have hjobs := hkept.jobs_eq
    rw [hbusy] at hjobs
    simpa [Session.begin] using hjobs
  numbers_eq := by
    rw [hkept.numbers_eq]
    simp [Session.begin, List.range'_concat, Nat.add_comm]
  calls_eq := by
    have hcalls := hkept.calls_eq
    rw [hbusy] at hcalls
    rw [hcalls]
    simp [Session.begin]
  lastReply_eq := hkept.lastReply_eq
  lastInsert_eq := hkept.lastInsert_eq

theorem Kept.settle (hkept : session.Kept calls numbers results) (hbusy : session.busy = true)
    (result : Job.Result) :
    (session.settle result).Kept (calls ++ closing session.reports result) numbers
      (results ++ [result]) where
  busy_eq := rfl
  jobs_eq := by
    have hjobs := hkept.jobs_eq
    rw [hbusy] at hjobs
    simpa [Session.settle] using hjobs
  numbers_eq := hkept.numbers_eq
  calls_eq := by
    have hcalls := hkept.calls_eq
    rw [hbusy] at hcalls
    rw [hcalls]
    simp [Session.settle, cycle]
  lastReply_eq := by simp [Session.settle]
  lastInsert_eq := by simp [Session.settle]

/-- What an ask that is refused leaves in the history. -/
def refusalEntries (session : Session) : List Entry :=
  if session.alive && session.busy then
    [Desk.record Log.debug "Ignoring ask while a job is in flight" []]
  else []

theorem isSilent_refusalEntries (session : Session) :
    ∀ entry ∈ session.refusalEntries, entry.isSilent = true := by
  unfold refusalEntries
  split_ifs <;> simp [Desk.record, Entry.isSilent]

end Session

/-! ### The lists of a session -/

/-- What the entry tells the surface of a session or reports to it. -/
def Entry.call? (index : Nat) : Entry → Option Notice
  | .record _ | .notice _ (.asked _) => none
  | .notice session told => if session = index then some told else none

theorem Entry.call?_eq_none {entry : Entry} (hsilent : entry.isSilent = true) (index : Nat) :
    entry.call? index = none := by
  cases entry with
  | record _ => rfl
  | notice session told => cases told <;> first | rfl | cases hsilent

namespace Desk

/-- All calls to the surface of a session, with the reports to it. -/
def calls (desk : Desk) (index : Nat) : List Notice := desk.history.filterMap (·.call? index)

/-- The numbers of the jobs of a session, in the order in which they were made. -/
def numbers (desk : Desk) (index : Nat) : List Nat :=
  (desk.workers.filter (·.session = index)).map (·.number)

/-- The results that were applied to a session. -/
def results (desk : Desk) (index : Nat) : List Job.Result :=
  (desk.applied.filter fun entry ↦ (desk.workers[entry.1]?).any (·.session = index)).map Prod.snd

section Lists

variable {desk next : Desk} {index : Nat}

theorem calls_note (desk : Desk) (entries : List Entry) (index : Nat) :
    (desk.note entries).calls index = desk.calls index ++ entries.filterMap (·.call? index) :=
  List.filterMap_append

theorem calls_note_of_isSilent (desk : Desk) {entries : List Entry}
    (hsilent : ∀ entry ∈ entries, entry.isSilent = true) (index : Nat) :
    (desk.note entries).calls index = desk.calls index := by
  have hnone : entries.filterMap (·.call? index) = [] :=
    List.filterMap_eq_nil_iff.mpr fun entry hentry ↦
      Entry.call?_eq_none (hsilent entry hentry) index
  rw [calls_note, hnone, List.append_nil]

theorem call?_askEntries (session : Nat) (worker : Worker) (captured : List Log.Record)
    (index : Nat) : (askEntries session worker captured).filterMap (·.call? index) =
      if session = index then Session.opening else [] := by
  have hcaptured : (captured.map Entry.record).filterMap (·.call? index) = [] :=
    List.filterMap_eq_nil_iff.mpr fun entry hentry ↦ by
      obtain ⟨record, _, rfl⟩ := List.mem_map.mp hentry
      rfl
  rw [askEntries, List.filterMap_append, hcaptured, List.nil_append]
  by_cases hindex : session = index
  · simp [Entry.call?, record, Session.opening, hindex]
  · simp [Entry.call?, record, hindex]

theorem call?_resultEntries (worker : Worker) (result : Job.Result) (reports : Bool)
    (index : Nat) : (resultEntries worker result reports).filterMap (·.call? index) =
      if worker.session = index then Session.closing reports result else [] := by
  by_cases hindex : worker.session = index
  · cases reports <;> simp [resultEntries, Entry.call?, record, Session.closing, hindex]
  · cases reports <;> simp [resultEntries, Entry.call?, record, hindex]

/-- Numbers and applied results depend on the sessions and the numbers of the workers. -/
theorem lists_congr (hworkers : next.workers.map (fun held ↦ (held.session, held.number)) =
      desk.workers.map fun held ↦ (held.session, held.number))
    (happlied : next.applied = desk.applied) (index : Nat) :
    next.numbers index = desk.numbers index ∧ next.results index = desk.results index := by
  have hnumbers (desk : Desk) : desk.numbers index =
      ((desk.workers.map fun held ↦ (held.session, held.number)).filter (·.1 = index)).map
        Prod.snd := by
    simp [numbers, List.filter_map, Function.comp_def]
  have hany (desk : Desk) (worker : Nat) : (desk.workers[worker]?).any (·.session = index) =
      ((desk.workers.map fun held ↦ (held.session, held.number))[worker]?).any
        (·.1 = index) := by
    rw [List.getElem?_map, Option.any_map]
  constructor
  · rw [hnumbers, hnumbers, hworkers]
  · simp only [results, hany, hworkers, happlied]

end Lists

/-! ### All sessions of a desk -/

/-- A session is where its lists lead, and where there is no session the lists are empty. -/
def Ledger (calls : List Notice) (numbers : List Nat) (results : List Job.Result) :
    Option Session → Prop
  | none => calls = [] ∧ numbers = [] ∧ results = []
  | some session => session.Kept calls numbers results

def Paced (desk : Desk) : Prop := ∀ index,
  Ledger (desk.calls index) (desk.numbers index) (desk.results index) desk.sessions[index]?

section Paced

variable {desk : Desk}

theorem paced_empty : Paced {} := fun index ↦ by
  rw [List.getElem?_nil]
  exact ⟨rfl, rfl, rfl⟩

theorem Paced.kept (hpaced : desk.Paced) {index : Nat} {session : Session}
    (hsession : desk.sessions[index]? = some session) :
    session.Kept (desk.calls index) (desk.numbers index) (desk.results index) := by
  have hledger := hpaced index
  rw [hsession] at hledger
  exact hledger

theorem Paced.note (hpaced : desk.Paced) {entries : List Entry}
    (hsilent : ∀ entry ∈ entries, entry.isSilent = true) : (desk.note entries).Paced := by
  intro index
  rw [calls_note_of_isSilent desk hsilent index]
  exact hpaced index

/-- Slots are no part of the lists. -/
theorem Paced.slot {next : Desk} (hpaced : desk.Paced) {worker : Nat} {held : Worker}
    {slot : ResultSlot} (hworker : desk.workers[worker]? = some held)
    (hworkers : next.workers = desk.workers.set worker { held with slot })
    (hsessions : next.sessions = desk.sessions) (happlied : next.applied = desk.applied)
    (hhistory : next.history = desk.history) : next.Paced := by
  have htags : next.workers.map (fun held ↦ (held.session, held.number)) =
      desk.workers.map fun held ↦ (held.session, held.number) := by
    rw [hworkers]
    refine List.ext_getElem? fun other ↦ ?_
    rw [List.getElem?_map, List.getElem?_map]
    by_cases heq : worker = other
    · subst heq
      rw [List.getElem?_set_self (lt_length_of_getElem?_eq_some hworker), hworker]
      rfl
    · rw [List.getElem?_set_ne heq]
  intro index
  obtain ⟨hnumbers, hresults⟩ := lists_congr htags happlied index
  rw [hsessions, hnumbers, hresults, calls, hhistory]
  exact hpaced index

/-- A session that is not busy begins a job. -/
theorem Paced.begun (hpaced : desk.Paced)
    (happlied : ∀ entry ∈ desk.applied, entry.1 < desk.workers.length) {session : Nat}
    {asking : Session} (hasking : desk.sessions[session]? = some asking)
    (hbusy : asking.busy = false) {worker : Worker} (howner : worker.session = session)
    (hnumber : worker.number = asking.jobs + 1) (captured : List Log.Record) :
    ((desk.begun session asking worker).note (askEntries session worker captured)).Paced := by
  intro index
  have hledger := hpaced index
  -- The new worker stands behind all those whose results were applied.
  have hresults : (desk.begun session asking worker).results index = desk.results index := by
    rw [results, results]
    refine congrArg _ (List.filter_congr fun entry hentry ↦ ?_)
    rw [Desk.begun, List.getElem?_append_left (happlied entry hentry)]
  have hnumbers : (desk.begun session asking worker).numbers index =
      desk.numbers index ++ if session = index then [asking.jobs + 1] else [] := by
    by_cases hindex : session = index
    · simp [numbers, Desk.begun, howner, hnumber, hindex]
    · simp [numbers, Desk.begun, howner, hindex]
  rw [calls_note, call?_askEntries]
  change Ledger (desk.calls index ++ _) ((desk.begun session asking worker).numbers index)
    ((desk.begun session asking worker).results index)
    (desk.begun session asking worker).sessions[index]?
  rw [hresults, hnumbers]
  by_cases hindex : session = index
  · subst hindex
    rw [if_pos rfl, if_pos rfl, Desk.begun,
      List.getElem?_set_self (lt_length_of_getElem?_eq_some hasking)]
    exact (hpaced.kept hasking).begin hbusy desk.workers.length
  · rw [if_neg hindex, if_neg hindex, Desk.begun, List.getElem?_set_ne hindex, List.append_nil,
      List.append_nil]
    exact hledger

theorem Paced.apply (hpaced : desk.Paced) {worker : Nat} {held : Worker}
    (hworker : desk.workers[worker]? = some held) (result : Job.Result) :
    (desk.apply worker result).Paced := by
  cases howns : desk.owns worker with
  | false =>
    obtain ⟨entries, hsilent, heq⟩ := apply_of_not_owns hworker howns result
    rw [heq]
    exact hpaced.note hsilent
  | true =>
    obtain ⟨session, hsession, _, hactive, _⟩ := (owns_iff hworker).mp howns
    have heq : desk.apply worker result =
        (desk.settled worker held result).note (resultEntries held result session.reports) := by
      simp [Desk.apply, hworker, howns, hsession, settled]
    have hresults (index : Nat) : (desk.settled worker held result).results index =
        desk.results index ++ if held.session = index then [result] else [] := by
      by_cases hindex : held.session = index
      · simp [results, settled, hworker, hindex]
      · simp [results, settled, hworker, hindex]
    rw [heq]
    intro index
    rw [calls_note, call?_resultEntries]
    change Ledger (desk.calls index ++ _) (desk.numbers index)
      ((desk.settled worker held result).results index)
      (desk.settled worker held result).sessions[index]?
    rw [hresults, settled, List.getElem?_modify]
    by_cases hindex : held.session = index
    · subst hindex
      -- The session that owns the job is busy, so that its last cycle is still open.
      have hkept := hpaced.kept hsession
      have hbusy : session.busy = true := by
        rw [hkept.busy_eq, hactive]
        rfl
      rw [hsession, if_pos rfl, if_pos rfl]
      simpa [Ledger] using hkept.settle hbusy result
    · rw [if_neg hindex, if_neg hindex, List.append_nil, List.append_nil]
      simpa [hindex] using hpaced index

end Paced

/-! ### Asks -/

section Asks

variable {desk : Desk} {session : Nat} {asking : Session} {prompt : String}

/-- An ask that passes the guards makes a job. -/
theorem ask_eq_begun (hasking : desk.sessions[session]? = some asking)
    (halive : asking.alive = true) (hbusy : asking.busy = false) (hprompt : prompt ≠ "")
    (options : Prompt.Options) (provider : Provider) :
    ∃ worker, worker = Worker.ofAsk asking session prompt options provider
        (Snapshot.capture asking.source).2 ∧
      desk.ask session prompt options provider = (some desk.workers.length,
        (desk.begun session asking worker).note
          (askEntries session worker (Snapshot.capture asking.source).1)) := by
  have hempty : prompt.isEmpty = false := by
    rw [Bool.eq_false_iff]
    exact fun h ↦ hprompt (String.isEmpty_iff.mp h)
  refine ⟨_, rfl, ?_⟩
  simp [ask, hasking, halive, hbusy, hempty, begun]

/-- An ask that a guard refuses leaves the desk as it is, apart from one record. -/
theorem ask_eq_note (hasking : desk.sessions[session]? = some asking)
    (hrefused : asking.alive = false ∨ asking.busy = true ∨ prompt = "")
    (options : Prompt.Options) (provider : Provider) :
    desk.ask session prompt options provider = (none, desk.note asking.refusalEntries) := by
  cases halive : asking.alive with
  | false => simp [ask, hasking, halive, Session.refusalEntries]
  | true =>
    cases hbusy : asking.busy with
    | true => simp [ask, hasking, halive, hbusy, Session.refusalEntries]
    | false =>
      have hprompt : prompt = "" := by simpa [halive, hbusy] using hrefused
      simp [ask, hasking, halive, hbusy, hprompt, Session.refusalEntries]

end Asks

end Desk

end DeskAssistant
