import DeskAssistant.Proofs.Job.Rounds
import DeskAssistant.Proofs.Job.Size
import DeskAssistant.Proofs.Text.Lines

/-!
# Asking for the last lines of the log

A snapshot keeps the end of a long command log, cut at any character, with a marker in front of it;
a call for the last lines then counts line feeds in what is left. The lines that come out are those
of the whole log nevertheless, if they fit into a result at all (`ToolCall.resolve_logTail`): the
line feed in front of them is within what the snapshot kept.

What becomes of them is followed along the transcript of a job. A first round whose reply is
granted calls is followed by exactly one more question, with their results
(`Engine.transcript_of_granted`), and the result of a single call is not cut. So the agent reads
these lines between the header and the end line (`lastLines_reach_agent`).
-/

set_option autoImplicit false
set_option relaxedAutoImplicit false

namespace DeskAssistant

/-! ### Resolving the call -/

namespace Text

/-- The last `count` lines of a text, or all of them if there are no more. -/
def lastWholeLines (text : String) (count : Nat) : String :=
  String.ofList ((lines text.toList).rtake count).flatten

theorem lastWholeLines_eq {text : String} (h : IsTerminated text.toList) (count : Nat) :
    lastWholeLines text count = String.ofList (lastLines text.toList count) := by
  rw [lastWholeLines, lastLines_eq_flatten_rtake h]

theorem endLine_of_isTerminated {text : String} (h : IsTerminated text.toList) :
    endLine text = text := if_pos h

end Text

namespace ToolCall

/-- A call for the last lines of the command log. -/
def logTail (count : Nat) (style : String) : ToolCall :=
  { name := Tool.commandLogTail.name, lineCount := count, style }

variable {source : ContextSource} {log : String} {count : Nat}

theorem resolve_logTail_eq (hlog : (source .commandLog).text? = some log) (hcount : 0 < count)
    (style : String) :
    (logTail count style).resolve (Snapshot.capture source).2 =
      Text.capHead (String.ofList (Text.lastLines (Text.capTail log 200000).toList count))
        32000 := by
  have hcaptured : (Snapshot.capture source).2.commandLog = some (Text.capTail log 200000) := by
    change (source .commandLog).text?.map (ContextField.cap .commandLog) = _
    rw [hlog]
    rfl
  have htool : Tool.ofName? (logTail count style).name = some .commandLogTail :=
    Tool.ofName?_eq_some_iff.mpr rfl
  have hpositive : (0 : Int) < (logTail count style).lineCount := Int.natCast_pos.mpr hcount
  rw [resolve, htool, Option.bind_some, Tool.value?, hcaptured, Option.map_some, Option.getD_some,
    Tool.logTail, if_pos hpositive]
  rfl

/-- The last lines of the log come out whole, however much of the log was cut. -/
theorem resolve_logTail (hlog : (source .commandLog).text? = some log)
    (hterminated : Text.IsTerminated log.toList) (hcount : 0 < count)
    (hshort : (Text.lastWholeLines log count).length ≤ 32000) (style : String) :
    (logTail count style).resolve (Snapshot.capture source).2 = Text.lastWholeLines log count := by
  have hlines : Text.lastLines (Text.capTail log 200000).toList count =
      Text.lastLines log.toList count := by
    have hfits : (Text.lastLines log.toList count).length < 200000 := by
      rw [Text.lastWholeLines_eq hterminated, String.length_ofList] at hshort
      omega
    exact Text.lastLines_capTail hfits
  rw [resolve_logTail_eq hlog hcount, hlines, ← Text.lastWholeLines_eq hterminated]
  exact Text.capHead_of_length_le _ _ (Int.ofNat_le.mpr hshort)

/-- Its result is these lines between a header and an end line. -/
theorem resultBlocks_logTail (hlog : (source .commandLog).text? = some log)
    (hterminated : Text.IsTerminated log.toList) (hcount : 0 < count)
    (hshort : (Text.lastWholeLines log count).length ≤ 32000) (style : String) :
    resultBlocks [logTail count style] (Snapshot.capture source).2 =
      "--- tool:get_command_log_tail ---\n" ++ Text.lastWholeLines log count ++
        "--- end ---\n" := by
  have hends : Text.IsTerminated (Text.lastWholeLines log count).toList := by
    rw [Text.lastWholeLines_eq hterminated, String.toList_ofList]
    exact Text.isTerminated_lastLines hterminated hcount
  have hname : Tool.commandLogTail.name = (logTail count style).name := rfl
  rw [resultBlocks_singleton _ hname, resolve_logTail hlog hterminated hcount hshort,
    Text.endLine_of_isTerminated hends]
  rfl

end ToolCall

/-! ### The question that follows -/

/-- A follow-up has the prompt in front of the results, and texts of its own around these. -/
theorem Prompt.exists_followUp_eq (prompt : String) :
    ∃ front behind, ∀ results, followUp prompt results = prompt ++ front ++ results ++ behind :=
  ⟨"\n\nTool results:\n", "\n\nNow respond using the JSON schema.\n", fun _ ↦ rfl⟩

namespace Job

open Conversation

namespace Engine

variable {request : Request} {asked : List Exchange}

theorem transcript_round {prompt : String} {number : Nat} {trace : List Stage}
    {next : String → Conversation}
    (h : Transcript (round request prompt number trace next) asked) :
    ∃ outcome rest, asked = (⟨request.provider, prompt⟩, outcome) :: rest ∧
      ((∃ answer, outcome = .ok answer ∧ answer.succeeded = true ∧
          Transcript (next (answer.reply.getD "")) rest) ∨
        (rest = [] ∧ ∀ answer, outcome = .ok answer → answer.succeeded = false)) := by
  unfold round at h
  rw [transcript_note_iff, transcript_ask_iff] at h
  obtain ⟨answer, rest, rfl, hnext⟩ | ⟨fault, rfl⟩ := h
  · refine ⟨.ok answer, rest, rfl, ?_⟩
    cases hsucceeded : answer.succeeded with
    | true =>
      rw [hsucceeded, if_pos rfl] at hnext
      exact Or.inl ⟨answer, rfl, hsucceeded, hnext⟩
    | false =>
      rw [hsucceeded, if_neg Bool.false_ne_true, transcript_note_iff] at hnext
      refine Or.inr ⟨?_, ?_⟩
      · cases hnext
        rfl
      · rintro _ ⟨⟩
        exact hsucceeded
  · exact ⟨.error fault, [], rfl, Or.inr ⟨rfl, fun _ h ↦ by cases h⟩⟩

theorem transcript_parse {raw : String} {reply : ModelReply}
    (hread : (ModelReply.read raw).2 = .ok reply) {next : ModelReply → Conversation}
    (h : Transcript (parse raw next) asked) : Transcript (next reply) asked := by
  unfold parse at h
  dsimp only at h
  rwa [hread, transcript_noteAll_iff] at h

/-- A second round asks one question. -/
theorem transcript_secondRound {snapshot : Snapshot} {calls : List ToolCall} {trace : List Stage}
    (h : Transcript (secondRound request snapshot calls trace) asked) :
    ∃ outcome, asked = [(⟨request.provider, Prompt.followUp request.prompt
      (ToolCall.resultBlocks calls snapshot)⟩, outcome)] := by
  unfold secondRound at h
  dsimp only at h
  rw [transcript_note_iff] at h
  obtain ⟨outcome, rest, rfl, ⟨answer, -, -, hrest⟩ | ⟨rfl, -⟩⟩ := transcript_round h
  · have hnone : rest = [] := hrest.eq_nil (asks_parse fun final ↦ asks_noteAll trivial)
    exact ⟨outcome, by rw [hnone]⟩
  · exact ⟨outcome, rfl⟩

theorem exists_reply_of_granted {first : Completion.Result}
    (hgranted : granted request first ≠ []) :
    request.toolsEnabled = true ∧ first.succeeded = true ∧ ∃ reply,
      (ModelReply.read (first.reply.getD "")).2 = .ok reply ∧
        granted request first = reply.toolCalls := by
  unfold granted at hgranted ⊢
  split
  · next reply hasked hread =>
    obtain ⟨htools, hsucceeded⟩ := Bool.and_eq_true_iff.mp hasked
    exact ⟨htools, hsucceeded, reply, hread, rfl⟩
  · next hother =>
    split at hgranted
    · next reply hasked hread => exact absurd hread (hother reply hasked)
    · exact absurd rfl hgranted

/-- A first answer that is granted calls is followed by one more question, with their results. -/
theorem transcript_of_granted {snapshot : Snapshot} {first : Completion.Result}
    {question : Question} {rest : List Exchange}
    (h : Transcript (converse request snapshot) ((question, .ok first) :: rest))
    (hgranted : granted request first ≠ []) :
    ∃ outcome, rest = [(⟨request.provider, Prompt.followUp request.prompt
      (ToolCall.resultBlocks (granted request first) snapshot)⟩, outcome)] := by
  obtain ⟨htools, hsucceeded, reply, hread, hcalls⟩ := exists_reply_of_granted hgranted
  rw [hcalls] at hgranted ⊢
  rw [converse_eq] at h
  obtain ⟨outcome, behind, heq, hnext⟩ := transcript_round h
  cases heq
  rcases hnext with ⟨answer, hanswer, -, hafter⟩ | ⟨-, hfailed⟩
  · cases hanswer
    unfold afterFirst at hafter
    rw [if_pos htools] at hafter
    have hsecond := transcript_parse hread hafter
    rw [if_neg (by simpa using hgranted)] at hsecond
    exact transcript_secondRound hsecond
  · exact absurd (hsucceeded.symm.trans (hfailed first rfl)) (by decide)

end Engine

/-! ### The lines that the agent reads -/

/-- A call for the last lines of a log that ends in a line feed, if they fit into a result: it
resolves to exactly these lines, however much of the log was cut. When it is the only call that a
first answer is granted, the agent is asked once more, and behind the prompt of the job it reads
these lines between the header and the end line. -/
theorem lastLines_reach_agent {source : ContextSource} {log : String}
    (hlog : (source .commandLog).text? = some log) (hterminated : Text.IsTerminated log.toList)
    {count : Nat} (hcount : 0 < count)
    (hshort : (Text.lastWholeLines log count).length ≤ 32000) (style : String) :
    (ToolCall.logTail count style).resolve (Snapshot.capture source).2 =
        Text.lastWholeLines log count ∧
      ∀ {σ : Type} (answer : Question → σ → Except Fault Completion.Result × σ)
        (keep : Log.Record → σ → σ) (state : σ) (request : Request)
        {question : Question} {first : Completion.Result} {rest : List Exchange},
        exchanges answer keep (Engine.converse request (Snapshot.capture source).2) state =
            (question, .ok first) :: rest →
          granted request first = [ToolCall.logTail count style] →
            ∃ outcome front behind, rest = [(⟨request.provider, request.prompt ++ front ++
              ("--- tool:get_command_log_tail ---\n" ++ Text.lastWholeLines log count ++
                "--- end ---\n") ++ behind⟩, outcome)] := by
  refine ⟨ToolCall.resolve_logTail hlog hterminated hcount hshort style, ?_⟩
  intro σ answer keep state request question first rest hasked hgranted
  have htranscript := transcript_exchanges answer keep
    (Engine.converse request (Snapshot.capture source).2) state
  rw [hasked] at htranscript
  obtain ⟨outcome, hsecond⟩ := Engine.transcript_of_granted htranscript (by rw [hgranted]; simp)
  rw [hgranted, ToolCall.resultBlocks_logTail hlog hterminated hcount hshort] at hsecond
  obtain ⟨front, behind, hprompt⟩ := Prompt.exists_followUp_eq request.prompt
  exact ⟨outcome, front, behind, by rw [hsecond, hprompt]⟩

/-- A log whose first line is as long as one likes. -/
def wideLog (width : Nat) : String :=
  String.ofList (List.replicate width 'x' ++ '\n' :: "fit y x\n".toList)

def wideLogSource (width : Nat) : ContextSource := .fixed fun field ↦
  if field = .commandLog then some (wideLog width) else none

theorem isTerminated_wideLog (width : Nat) : Text.IsTerminated (wideLog width).toList := by
  rw [wideLog, String.toList_ofList, Text.IsTerminated, List.getLast?_append]
  rfl

theorem lastWholeLines_wideLog (width : Nat) :
    Text.lastWholeLines (wideLog width) 1 = "fit y x\n" := by
  rw [Text.lastWholeLines_eq (isTerminated_wideLog width), wideLog, String.toList_ofList]
  exact congrArg String.ofList (Text.lastLines_append (List.replicate width 'x') _)

/-- The answer that asks for the last line. -/
def lastLineAnswer : Completion.Result where
  reply := some lastLineReply
  error := none
  errorKind := none
  exactlyOne := by decide

/-- The last line reaches an agent that asks for it, although most of the log was cut. -/
theorem lastLine_reaches_agent :
    Text.IsTerminated (wideLog 300000).toList ∧
      (Text.lastWholeLines (wideLog 300000) 1).length ≤ 32000 ∧
      ∃ outcome front behind, exchanges (fun _ (state : Unit) ↦ (.ok lastLineAnswer, state))
          (fun _ state ↦ state)
          (Engine.converse ⟨.codex, "why?", true⟩ (Snapshot.capture (wideLogSource 300000)).2) () =
        [(⟨.codex, "why?"⟩, .ok lastLineAnswer),
          (⟨.codex, "why?" ++ front ++
            "--- tool:get_command_log_tail ---\nfit y x\n--- end ---\n" ++ behind⟩,
              outcome)] := by
  have hterminated := isTerminated_wideLog 300000
  have hshort : (Text.lastWholeLines (wideLog 300000) 1).length ≤ 32000 := by
    rw [lastWholeLines_wideLog]
    decide
  have hlog : (wideLogSource 300000 .commandLog).text? = some (wideLog 300000) := rfl
  obtain ⟨-, hprompt⟩ := lastLines_reach_agent hlog hterminated Nat.one_pos hshort "simple"
  have hgranted : granted ⟨.codex, "why?", true⟩ lastLineAnswer =
      [ToolCall.logTail 1 "simple"] := by decide +kernel
  obtain ⟨rest, hrest⟩ : ∃ rest, exchanges (fun _ (state : Unit) ↦ (.ok lastLineAnswer, state))
      (fun _ state ↦ state)
      (Engine.converse ⟨.codex, "why?", true⟩ (Snapshot.capture (wideLogSource 300000)).2) () =
        (⟨.codex, "why?"⟩, .ok lastLineAnswer) :: rest := exists_exchanges_ask_eq _ _ _ _ ()
  obtain ⟨outcome, front, behind, rfl⟩ := hprompt _ _ () ⟨.codex, "why?", true⟩ hrest hgranted
  refine ⟨hterminated, hshort, outcome, front, behind, hrest.trans ?_⟩
  rw [lastWholeLines_wideLog]
  rfl

end Job

end DeskAssistant
