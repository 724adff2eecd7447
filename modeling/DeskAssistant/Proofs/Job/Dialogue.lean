import DeskAssistant.Job.Conversation

/-!
# Dialogues

A run of a conversation may ask an agent with any behaviour: its answers may depend on a state, on
the questions so far and on the notes taken. `exchanges` is what an observer between the two
writes down, and `run_logged` shows that the observer changes nothing. A run that returns is a
`Dialogue`, which says what was asked and answered and no longer mentions states
(`dialogue_of_run`), so that properties of all runs are proved by following the conversation. A
run that may end with a fault leaves a `Transcript` in the same way (`transcript_exchanges`).
-/

set_option autoImplicit false
set_option relaxedAutoImplicit false

namespace DeskAssistant.Job

/-- A question and what came back for it. -/
abbrev Exchange := Question × Except Fault Completion.Result

namespace Conversation

/-! ### Observed runs -/

section Runs

variable {σ : Type} (answer : Question → σ → Except Fault Completion.Result × σ)
  (keep : Log.Record → σ → σ)

/-- Answers as `answer` does and writes the exchange down. -/
def logged (question : Question) (state : σ × List Exchange) :
    Except Fault Completion.Result × (σ × List Exchange) :=
  ((answer question state.1).1,
    ((answer question state.1).2, state.2 ++ [(question, (answer question state.1).1)]))

/-- Takes notes as `keep` does, beside the exchanges. -/
def keptBeside (record : Log.Record) (state : σ × List Exchange) : σ × List Exchange :=
  (keep record state.1, state.2)

/-- The exchanges of a run, in order. -/
def exchanges (conversation : Conversation) (state : σ) : List Exchange :=
  (conversation.run (logged answer) (keptBeside keep) (state, [])).2.2

variable {answer keep}

/-- Two runs end alike when their states correspond before and after every question and note. -/
theorem run_map {τ : Type} {answerOf : Question → τ → Except Fault Completion.Result × τ}
    {keepOf : Log.Record → τ → τ} (shown : τ → σ)
    (hanswer : ∀ question state,
      answer question (shown state) = (answerOf question state).map id shown)
    (hkeep : ∀ record state, keep record (shown state) = shown (keepOf record state))
    (conversation : Conversation) (state : τ) :
    conversation.run answer keep (shown state) =
      (conversation.run answerOf keepOf state).map id shown := by
  induction conversation generalizing state with
  | ended outcome => rfl
  | note record next ih =>
    rw [run, run, hkeep]
    exact ih (keepOf record state)
  | ask question next ih =>
    rw [run, run, hanswer]
    cases answerOf question state with
    | mk reply after =>
      cases reply with
      | ok reply => exact ih reply after
      | error fault => rfl

variable (answer keep)

/-- An observed run ends like the run itself, whatever was written down before. -/
theorem run_logged (conversation : Conversation) (state : σ) (log : List Exchange) :
    (conversation.run (logged answer) (keptBeside keep) (state, log)).map id Prod.fst =
      conversation.run answer keep state :=
  (run_map Prod.fst (fun _ _ ↦ rfl) (fun _ _ ↦ rfl) conversation (state, log)).symm

end Runs

/-! ### Dialogues -/

/-- In the conversation these questions get these answers, and then it returns this result. -/
inductive Dialogue : Conversation → List (Question × Completion.Result) → Result → Prop
  | ended (result : Result) : Dialogue (.ended (.ok result)) [] result
  | note (record : Log.Record) {next : Conversation}
      {answered : List (Question × Completion.Result)} {result : Result} :
      Dialogue next answered result → Dialogue (.note record next) answered result
  | ask (question : Question) {next : Completion.Result → Conversation}
      (reply : Completion.Result) {answered : List (Question × Completion.Result)}
      {result : Result} :
      Dialogue (next reply) answered result →
        Dialogue (.ask question next) ((question, reply) :: answered) result

/-- An exchange that was answered. -/
def answeredExchange (entry : Question × Completion.Result) : Exchange := (entry.1, .ok entry.2)

/-- A run that returns is a dialogue, and the dialogue is what was written down. -/
theorem dialogue_of_run_logged {σ : Type}
    (answer : Question → σ → Except Fault Completion.Result × σ) (keep : Log.Record → σ → σ)
    (conversation : Conversation) (state : σ) (log : List Exchange) {result : Result}
    (hreturns : (conversation.run answer keep state).1 = .ok result) :
    ∃ answered, Dialogue conversation answered result ∧
      (conversation.run (logged answer) (keptBeside keep) (state, log)).2.2 =
        log ++ answered.map answeredExchange := by
  induction conversation generalizing state log with
  | ended outcome =>
    have houtcome : outcome = .ok result := hreturns
    subst houtcome
    exact ⟨[], .ended result, (List.append_nil log).symm⟩
  | note record next ih =>
    obtain ⟨answered, hdialogue, hlog⟩ := ih (keep record state) log hreturns
    exact ⟨answered, .note record hdialogue, hlog⟩
  | ask question next ih =>
    simp only [run, logged] at hreturns ⊢
    cases hanswer : answer question state with
    | mk reply after =>
      rw [hanswer] at hreturns
      cases reply with
      | ok reply =>
        obtain ⟨answered, hdialogue, hlog⟩ :=
          ih reply after (log ++ [(question, .ok reply)]) hreturns
        refine ⟨(question, reply) :: answered, .ask question reply hdialogue, ?_⟩
        rw [List.append_assoc] at hlog
        exact hlog
      | error fault => cases hreturns

theorem dialogue_of_run {σ : Type}
    (answer : Question → σ → Except Fault Completion.Result × σ) (keep : Log.Record → σ → σ)
    (conversation : Conversation) (state : σ) {result : Result}
    (hreturns : (conversation.run answer keep state).1 = .ok result) :
    ∃ answered, Dialogue conversation answered result ∧
      exchanges answer keep conversation state = answered.map answeredExchange := by
  obtain ⟨answered, hdialogue, hlog⟩ :=
    dialogue_of_run_logged answer keep conversation state [] hreturns
  exact ⟨answered, hdialogue, hlog⟩

/-! ### Following a dialogue -/

theorem dialogue_ended_iff {outcome : Except Fault Result}
    {answered : List (Question × Completion.Result)} {result : Result} :
    Dialogue (.ended outcome) answered result ↔ outcome = .ok result ∧ answered = [] := by
  constructor
  · intro h
    cases h
    exact ⟨rfl, rfl⟩
  · rintro ⟨rfl, rfl⟩
    exact .ended result

theorem dialogue_note_iff {record : Log.Record} {next : Conversation}
    {answered : List (Question × Completion.Result)} {result : Result} :
    Dialogue (.note record next) answered result ↔ Dialogue next answered result := by
  constructor
  · intro h
    cases h with
    | note _ hnext => exact hnext
  · exact .note record

theorem dialogue_noteAll_iff {records : List Log.Record} {next : Conversation}
    {answered : List (Question × Completion.Result)} {result : Result} :
    Dialogue (.noteAll records next) answered result ↔ Dialogue next answered result := by
  induction records with
  | nil => exact Iff.rfl
  | cons record rest ih => exact dialogue_note_iff.trans ih

theorem dialogue_ask_iff {question : Question} {next : Completion.Result → Conversation}
    {answered : List (Question × Completion.Result)} {result : Result} :
    Dialogue (.ask question next) answered result ↔
      ∃ reply rest, answered = (question, reply) :: rest ∧
        Dialogue (next reply) rest result := by
  constructor
  · intro h
    cases h with
    | ask _ reply hnext => exact ⟨reply, _, rfl, hnext⟩
  · rintro ⟨reply, rest, rfl, hnext⟩
    exact .ask question reply hnext

/-! ### Transcripts -/

/-- In the conversation these questions can be asked and come back with these outcomes; a question
that comes back with a fault is the last one. -/
inductive Transcript : Conversation → List Exchange → Prop
  | ended (outcome : Except Fault Result) : Transcript (.ended outcome) []
  | note (record : Log.Record) {next : Conversation} {asked : List Exchange} :
      Transcript next asked → Transcript (.note record next) asked
  | answered (question : Question) {next : Completion.Result → Conversation}
      (reply : Completion.Result) {asked : List Exchange} :
      Transcript (next reply) asked →
        Transcript (.ask question next) ((question, .ok reply) :: asked)
  | faulted (question : Question) {next : Completion.Result → Conversation} (fault : Fault) :
      Transcript (.ask question next) [(question, .error fault)]

/-- What is written down during a run is a transcript, whatever was written down before. -/
theorem exists_transcript_of_run_logged {σ : Type}
    (answer : Question → σ → Except Fault Completion.Result × σ) (keep : Log.Record → σ → σ)
    (conversation : Conversation) (state : σ) (log : List Exchange) :
    ∃ asked, Transcript conversation asked ∧
      (conversation.run (logged answer) (keptBeside keep) (state, log)).2.2 = log ++ asked := by
  induction conversation generalizing state log with
  | ended outcome => exact ⟨[], .ended outcome, (List.append_nil log).symm⟩
  | note record next ih =>
    obtain ⟨asked, htranscript, hlog⟩ := ih (keep record state) log
    exact ⟨asked, .note record htranscript, hlog⟩
  | ask question next ih =>
    simp only [run, logged]
    cases hanswer : answer question state with
    | mk outcome after =>
      cases outcome with
      | error fault => exact ⟨[(question, .error fault)], .faulted question fault, rfl⟩
      | ok reply =>
        obtain ⟨asked, htranscript, hlog⟩ := ih reply after (log ++ [(question, .ok reply)])
        refine ⟨(question, .ok reply) :: asked, .answered question reply htranscript, ?_⟩
        rw [List.append_assoc] at hlog
        exact hlog

theorem transcript_exchanges {σ : Type}
    (answer : Question → σ → Except Fault Completion.Result × σ) (keep : Log.Record → σ → σ)
    (conversation : Conversation) (state : σ) :
    Transcript conversation (exchanges answer keep conversation state) := by
  obtain ⟨asked, htranscript, hlog⟩ :=
    exists_transcript_of_run_logged answer keep conversation state []
  rw [exchanges, hlog]
  exact htranscript

/-- What comes back for the first question is what it was answered. -/
theorem exists_exchanges_ask_eq {σ : Type}
    (answer : Question → σ → Except Fault Completion.Result × σ) (keep : Log.Record → σ → σ)
    (question : Question) (next : Completion.Result → Conversation) (state : σ) :
    ∃ rest, exchanges answer keep (.ask question next) state =
      (question, (answer question state).1) :: rest := by
  simp only [exchanges, run, logged]
  cases hanswer : answer question state with
  | mk outcome after =>
    cases outcome with
    | error fault => exact ⟨[], rfl⟩
    | ok reply =>
      obtain ⟨rest, -, hlog⟩ := exists_transcript_of_run_logged answer keep (next reply) after
        [(question, .ok reply)]
      exact ⟨rest, hlog⟩

theorem transcript_note_iff {record : Log.Record} {next : Conversation} {asked : List Exchange} :
    Transcript (.note record next) asked ↔ Transcript next asked := by
  constructor
  · intro h
    cases h with
    | note _ hnext => exact hnext
  · exact .note record

theorem transcript_noteAll_iff {records : List Log.Record} {next : Conversation}
    {asked : List Exchange} :
    Transcript (.noteAll records next) asked ↔ Transcript next asked := by
  induction records with
  | nil => exact Iff.rfl
  | cons record rest ih => exact transcript_note_iff.trans ih

theorem transcript_ask_iff {question : Question} {next : Completion.Result → Conversation}
    {asked : List Exchange} :
    Transcript (.ask question next) asked ↔
      (∃ reply rest, asked = (question, .ok reply) :: rest ∧ Transcript (next reply) rest) ∨
        ∃ fault, asked = [(question, .error fault)] := by
  constructor
  · intro h
    cases h with
    | answered _ reply hnext => exact Or.inl ⟨reply, _, rfl, hnext⟩
    | faulted _ fault => exact Or.inr ⟨fault, rfl⟩
  · rintro (⟨reply, rest, rfl, hnext⟩ | ⟨fault, rfl⟩)
    · exact .answered question reply hnext
    · exact .faulted question fault

end Conversation

end DeskAssistant.Job
