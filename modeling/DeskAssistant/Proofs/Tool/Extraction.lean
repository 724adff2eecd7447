import DeskAssistant.Proofs.Tool.LineCount
import Mathlib.Data.List.Forall2

/-!
# Where the calls of a reply come from

What can be said of the calls of a reply when nothing is known of its text. Each is well-formed
(`CallItem.wellFormed_of_read`): it names a tool and carries no argument that its tool does not
look at. Each is read from a closed object of its own. The objects of an array stand in it one
after the other (`CallScan.inOrder_objects`), so that those of the accepted calls do, and their
places in the text of the reply are disjoint and inside the brackets of the array
(`InOrder.exists_spans`).

Nothing outside these brackets is looked at. A scan for the end of an object is confined to the
array, and so two replies with the same array have the same calls
(`ModelReply.extracted_of_read`).
-/

set_option autoImplicit false
set_option relaxedAutoImplicit false

namespace DeskAssistant

open Fragment

/-! ### Pieces of a text -/

/-- The pieces stand in the text one after the other, with anything between them. -/
inductive InOrder : List Char → List (List Char) → Prop
  | nil (text : List Char) : InOrder text []
  | cons (gap piece : List Char) {rest : List Char} {pieces : List (List Char)} :
      InOrder rest pieces → InOrder (gap ++ piece ++ rest) (piece :: pieces)

/-- The characters of a text from the first index of a span through the last one. -/
def slice (text : List Char) (span : Nat × Nat) : List Char := (text.take (span.2 + 1)).drop span.1

section InOrder

variable {text gap : List Char} {pieces chosen : List (List Char)}

theorem InOrder.behind (gap : List Char) (h : InOrder text pieces) :
    InOrder (gap ++ text) pieces := by
  cases h with
  | nil => exact .nil _
  | cons before piece hrest =>
    rw [List.append_assoc, ← List.append_assoc, ← List.append_assoc]
    exact .cons (gap ++ before) piece hrest

theorem InOrder.sublist (h : InOrder text pieces) (hchosen : chosen.Sublist pieces) :
    InOrder text chosen := by
  induction h generalizing chosen with
  | nil text =>
    rw [List.sublist_nil.mp hchosen]
    exact .nil text
  | cons gap piece hrest ih =>
    cases hchosen with
    | cons _ hsub => exact (ih hsub).behind _
    | cons_cons _ hsub => exact .cons gap piece (ih hsub)

theorem slice_append (front piece behind : List Char) (hpiece : piece ≠ []) :
    slice (front ++ piece ++ behind) (front.length, front.length + piece.length - 1) = piece := by
  have hlength : front.length + piece.length - 1 + 1 = (front ++ piece).length := by
    have := List.length_pos_iff.mpr hpiece
    rw [List.length_append]
    omega
  rw [slice, hlength, List.take_left, List.drop_left]

/-- Pieces in order have places that are disjoint and in order. -/
theorem InOrder.exists_spans (h : InOrder text pieces) (hpieces : ∀ piece ∈ pieces, piece ≠ [])
    (front behind : List Char) :
    ∃ spans : List (Nat × Nat), spans.Pairwise (fun first second ↦ first.2 < second.1) ∧
      List.Forall₂ (fun span piece ↦ front.length ≤ span.1 ∧
        span.2 < front.length + text.length ∧ slice (front ++ text ++ behind) span = piece)
        spans pieces := by
  induction h generalizing front with
  | nil => exact ⟨[], List.Pairwise.nil, .nil⟩
  | @cons gap piece rest pieces hrest ih =>
    obtain ⟨hpiece, hmore⟩ := List.forall_mem_cons.mp hpieces
    obtain ⟨spans, hpairwise, hspans⟩ := ih hmore (front ++ gap ++ piece)
    have hpositive := List.length_pos_iff.mpr hpiece
    refine ⟨((front ++ gap).length, (front ++ gap).length + piece.length - 1) :: spans,
      List.pairwise_cons.mpr ⟨?_, hpairwise⟩, .cons ?_ ?_⟩
    · intro span hspan
      obtain ⟨_, _, hstart, _⟩ := exists_mem_right hspans hspan
      simp only [List.length_append] at hstart ⊢
      omega
    · have hslice := slice_append (front ++ gap) piece (rest ++ behind) hpiece
      simp only [List.append_assoc] at hslice ⊢
      simp only [List.length_append] at hslice ⊢
      exact ⟨by omega, by omega, hslice⟩
    · refine hspans.imp ?_
      rintro span other ⟨hstart, hend, hslice⟩
      simp only [List.append_assoc, List.length_append] at hstart hend hslice ⊢
      exact ⟨by omega, by omega, hslice⟩

end InOrder

/-! ### Bracketed texts -/

namespace Fragment

section Bracketed

variable {opening closing : Char} {text : List Char}

/-- Only the closing bracket ends a scan. -/
theorem Bracket.exists_append_of_closingFrom {mode : Mode} {depth : Int} {offset found : Nat}
    (h : closingFrom opening closing mode depth offset text = some found) :
    ∃ inner behind, text = inner ++ closing :: behind ∧ found = offset + inner.length := by
  induction text generalizing mode depth offset with
  | nil => cases h
  | cons c rest ih =>
    have hgoesOn {mode : Mode} {depth : Int}
        (hrest : closingFrom opening closing mode depth (offset + 1) rest = some found) :
        ∃ inner behind, c :: rest = inner ++ closing :: behind ∧
          found = offset + inner.length := by
      obtain ⟨inner, behind, rfl, rfl⟩ := ih hrest
      exact ⟨c :: inner, behind, rfl, by rw [List.length_cons]; omega⟩
    cases mode with
    | escaped => exact hgoesOn h
    | quoted => exact hgoesOn h
    | plain =>
      rw [closingFrom] at h
      split_ifs at h with hquote hopening hclosing hdepth
      · exact hgoesOn h
      · exact hgoesOn h
      · cases h
        exact ⟨[], rest, by rw [hclosing]; rfl, rfl⟩
      · exact hgoesOn h
      · exact hgoesOn h

theorem Bracket.exists_append_of_closing? {offset : Nat} (hne : opening ≠ closing)
    (h : closing? opening closing text = some offset) :
    ∃ inner behind, text = opening :: (inner ++ closing :: behind) ∧
      offset = inner.length + 1 := by
  unfold closing? at h
  cases text with
  | nil => cases h
  | cons c rest =>
    dsimp only at h
    split_ifs at h with hopening
    obtain ⟨inner, behind, htext, rfl⟩ := exists_append_of_closingFrom h
    subst hopening
    cases inner with
    | nil => exact absurd (List.cons.inj htext).1 hne
    | cons d inner =>
      obtain ⟨rfl, rfl⟩ := List.cons.inj htext
      exact ⟨inner, behind, rfl, by rw [Nat.zero_add, List.length_cons]⟩

/-- The bracketed value of a field and its place in the text. -/
theorem Field.exists_append_of_span? {name : String} {span : List Char} (hne : opening ≠ closing)
    (h : span? text name opening closing = some span) :
    ∃ front inner behind, text = front ++ opening :: (inner ++ closing :: behind) ∧
      span = opening :: (inner ++ [closing]) ∧
      spanIndices? text name opening closing =
        some (front.length, front.length + (inner.length + 1)) := by
  obtain ⟨value, hvalue, hspan⟩ := Option.bind_eq_some_iff.mp h
  obtain ⟨offset, hoffset, rfl⟩ := Option.map_eq_some_iff.mp hspan
  obtain ⟨front, rfl⟩ := suffix_of_value? hvalue
  obtain ⟨inner, behind, rfl, rfl⟩ := Bracket.exists_append_of_closing? hne hoffset
  refine ⟨front, inner, behind, rfl, ?_, ?_⟩
  · rw [List.take_succ_cons, List.append_cons, List.take_left' (by simp)]
  · simp [spanIndices?, hvalue, hoffset]

end Bracketed

end Fragment

/-! ### The objects of an array -/

/-- A text from an opening brace to a closing one. -/
def IsBraced (text : List Char) : Prop := ∃ inner, text = '\x7b' :: (inner ++ ['\x7d'])

namespace CallScan

theorem isBraced_of_mem_objects (text : List Char) : ∀ object ∈ objects text, IsBraced object := by
  fun_induction objects text with
  | case1 text hblanks => exact List.forall_mem_nil _
  | case2 text rest hblanks ih => exact ih
  | case3 text rest hblanks _ hopen => exact List.forall_mem_nil _
  | case4 text rest offset hblanks _ hclosed ih =>
    obtain ⟨inner, behind, htext, rfl⟩ := Bracket.exists_append_of_closing? (by decide) hclosed
    obtain ⟨-, rfl⟩ := List.cons.inj htext
    refine List.forall_mem_cons.mpr ⟨⟨inner, ?_⟩, ih⟩
    rw [List.take_succ_cons, List.append_cons, List.take_left' (by simp)]
  | case5 text c rest hblanks hcomma hopening => exact List.forall_mem_nil _

theorem inOrder_objects (text : List Char) : InOrder text (objects text) := by
  -- Blanks in front of an object belong to the gap before it.
  have hskip {text : List Char} {pieces : List (List Char)}
      (h : InOrder (Text.skipBlanks text) pieces) : InOrder text pieces := by
    have hsplit := List.takeWhile_append_dropWhile (p := Text.isBlank) (l := text)
    rw [← hsplit]
    exact h.behind _
  fun_induction objects text with
  | case1 text hblanks => exact .nil text
  | case2 text rest hblanks ih =>
    refine hskip ?_
    rw [hblanks]
    exact ih.behind [',']
  | case3 text rest hblanks _ hopen => exact .nil text
  | case4 text rest offset hblanks _ hclosed ih =>
    refine hskip ?_
    rw [hblanks]
    have hstep := InOrder.cons [] (('\x7b' :: rest).take (offset + 1)) ih
    rwa [List.nil_append, List.take_succ_cons, List.cons_append, List.take_append_drop] at hstep
  | case5 text c rest hblanks hcomma hopening => exact .nil text

end CallScan

/-! ### One call -/

/-- A call to a tool whose arguments have their defaults where the tool does not look at them. -/
structure ToolCall.WellFormed (call : ToolCall) : Prop where
  tool : ∃ tool : Tool, tool.name = call.name
  lineCount : 1 ≤ call.lineCount
  style : call.style = Tool.defaultStyle ∨ call.style = Tool.fullStyle
  lines : call.lineCount ≠ Tool.defaultLineCount → call.name = Tool.commandLogTail.name
  full : call.style = Tool.fullStyle → call.name = Tool.lastModelSummary.name

namespace CallItem

theorem one_le_defaultLineCount : 1 ≤ Tool.defaultLineCount := by decide

theorem one_le_lineCount {arguments : List Char} {count : Int}
    (h : lineCount arguments = .ok count) : 1 ≤ count := by
  unfold lineCount at h
  split at h
  · cases h
    exact one_le_defaultLineCount
  · next value _ =>
    cases hvalue : Text.readInteger value with
    | error fault =>
      rw [hvalue] at h
      cases h
    | ok parsed =>
      rw [hvalue] at h
      cases h
      dsimp only
      split
      · split_ifs with hpositive
        · exact hpositive
        · exact one_le_defaultLineCount
      · exact one_le_defaultLineCount

theorem style_cases (arguments : List Char) :
    style arguments = Tool.defaultStyle ∨ style arguments = Tool.fullStyle := by
  unfold style
  split_ifs
  · exact Or.inr rfl
  · exact Or.inl rfl

theorem wellFormed_of_read {object : List Char} {call : ToolCall}
    (hread : read object = .ok (.call call)) : call.WellFormed := by
  unfold read at hread
  split at hread
  · cases hread
  · next name hname =>
    split_ifs at hread
    · cases hread
    · split at hread
      · cases hread
      · next arguments htool _ =>
        have hlog := Tool.ofName?_eq_some_iff.mp htool
        cases hcount : lineCount arguments with
        | error fault =>
          rw [hcount] at hread
          cases hread
        | ok count =>
          rw [hcount] at hread
          cases hread
          exact ⟨⟨_, hlog⟩, one_le_lineCount hcount, Or.inl rfl, fun _ ↦ hlog.symm,
            fun hfull ↦ absurd hfull (by decide : Tool.defaultStyle ≠ Tool.fullStyle)⟩
      · next arguments htool _ =>
        have hsummary := Tool.ofName?_eq_some_iff.mp htool
        cases hread
        exact ⟨⟨_, hsummary⟩, one_le_defaultLineCount, style_cases arguments,
          fun hother ↦ absurd rfl hother, fun _ ↦ hsummary.symm⟩
      · next htool _ _ =>
        cases hread
        exact ⟨⟨_, Tool.ofName?_eq_some_iff.mp htool⟩, one_le_defaultLineCount, Or.inl rfl,
          fun hother ↦ absurd rfl hother,
          fun hfull ↦ absurd hfull (by decide : Tool.defaultStyle ≠ Tool.fullStyle)⟩

end CallItem

/-! ### The calls of a reply -/

/-- The first values taken from a list come from entries of a sublist, one from each. -/
theorem exists_sublist_forall₂_take {α β : Type} (value? : α → Option β) (list : List α)
    (limit : Nat) :
    ∃ chosen : List α, chosen.Sublist list ∧
      List.Forall₂ (fun entry value ↦ value? entry = some value) chosen
        ((list.filterMap value?).take limit) := by
  induction list generalizing limit with
  | nil => exact ⟨[], List.Sublist.refl [], by simp⟩
  | cons entry list ih =>
    cases hvalue : value? entry with
    | none =>
      obtain ⟨chosen, hsub, hvalues⟩ := ih limit
      rw [List.filterMap_cons_none hvalue]
      exact ⟨chosen, hsub.cons entry, hvalues⟩
    | some value =>
      rw [List.filterMap_cons_some hvalue]
      cases limit with
      | zero => exact ⟨[], List.nil_sublist _, .nil⟩
      | succ limit =>
        obtain ⟨chosen, hsub, hvalues⟩ := ih limit
        exact ⟨entry :: chosen, hsub.cons_cons entry, .cons hvalue hvalues⟩

/-- Two relations between lists whose entries are related one by one, in a row. -/
theorem forall₂_of_forall₂ {α β γ : Type} {R : α → β → Prop} {S : β → γ → Prop}
    {T : α → γ → Prop} {first : List α} {second : List β} {third : List γ}
    (hfirst : List.Forall₂ R first second) (hsecond : List.Forall₂ S second third)
    (h : ∀ a, ∀ b ∈ second, ∀ c, R a b → S b c → T a c) : List.Forall₂ T first third := by
  induction hfirst generalizing third with
  | nil =>
    cases hsecond
    exact .nil
  | cons hR _ ih =>
    cases hsecond with
    | cons hS hsecond =>
      exact .cons (h _ _ List.mem_cons_self _ hR hS)
        (ih hsecond fun a b hb ↦ h a b (List.mem_cons_of_mem _ hb))

namespace ModelReply

variable {raw : String} {reply : ModelReply}

theorem toolCalls_of_read (hread : (read raw).2 = .ok reply) :
    reply.toolCalls = ((callObjects raw).filterMap CallItem.call?).take ToolCall.limit := by
  obtain ⟨hfault, other, hother, hcalls⟩ | ⟨fault, -, hfault⟩ := read_cases raw
  · cases hread.symm.trans hother
    have hscan := (CallScan.foldl_step (callObjects raw) {} rfl (Nat.zero_le _)).2
    rw [← scanOf_eq_foldl] at hscan
    exact hcalls.trans (hscan hfault)
  · cases hread.symm.trans hfault

theorem wellFormed_of_mem (hread : (read raw).2 = .ok reply) {call : ToolCall}
    (hcall : call ∈ reply.toolCalls) : call.WellFormed := by
  rw [toolCalls_of_read hread] at hcall
  obtain ⟨object, -, hobject⟩ := List.mem_filterMap.mp (List.mem_of_mem_take hcall)
  exact CallItem.wellFormed_of_read (CallItem.call?_eq_some_iff.mp hobject)

/-- The array is all that the calls depend on, and whether there is a fault among them. -/
theorem exists_read_of_callArray?_eq (hread : (read raw).2 = .ok reply) {other : String}
    (hsame : callArray? other.toList = callArray? raw.toList) :
    ∃ reply', (read other).2 = .ok reply' ∧ reply'.toolCalls = reply.toolCalls := by
  have hscan : scanOf other = scanOf raw := by rw [scanOf, scanOf, hsame]
  obtain ⟨hfault, reply₁, hread₁, hcalls₁⟩ | ⟨fault, -, herror⟩ := read_cases raw
  · cases hread.symm.trans hread₁
    obtain ⟨-, reply₂, hread₂, hcalls₂⟩ | ⟨fault, hfault₂, -⟩ := read_cases other
    · exact ⟨reply₂, hread₂, by rw [hcalls₂, hcalls₁, hscan]⟩
    · rw [hscan, hfault] at hfault₂
      cases hfault₂
  · cases hread.symm.trans herror

/-- The call is read from a braced piece of the text whose place is the span, strictly inside the
brackets of the array. -/
structure ReadAt (text : List Char) (array span : Nat × Nat) (call : ToolCall) : Prop where
  behind : array.1 < span.1
  before : span.2 < array.2
  braced : IsBraced (slice text span)
  call : CallItem.read (slice text span) = .ok (.call call)

/-- The calls of the array are read one after the other from places that do not overlap. -/
theorem exists_readAt (hread : (read raw).2 = .ok reply) (hcalls : reply.toolCalls ≠ []) :
    ∃ array spans, Field.spanIndices? raw.toList "tool_calls" '[' ']' = some array ∧
      spans.Pairwise (fun first second ↦ first.2 < second.1) ∧
      List.Forall₂ (ReadAt raw.toList array) spans reply.toolCalls := by
  have htake := toolCalls_of_read hread
  cases hspan : callArray? raw.toList with
  | none =>
    rw [callObjects, hspan] at htake
    exact absurd htake hcalls
  | some array =>
    obtain ⟨front, inner, behind, htext, rfl, hindices⟩ :=
      Field.exists_append_of_span? (by decide) hspan
    have hobjects : callObjects raw = CallScan.objects inner := by
      rw [callObjects, hspan]
      simp
    obtain ⟨chosen, hsub, hchosen⟩ :=
      exists_sublist_forall₂_take CallItem.call? (callObjects raw) ToolCall.limit
    rw [hobjects] at hsub
    have hbraced (piece : List Char) (hpiece : piece ∈ chosen) : IsBraced piece :=
      CallScan.isBraced_of_mem_objects inner piece (hsub.subset hpiece)
    have hnonempty (piece : List Char) (hpiece : piece ∈ chosen) : piece ≠ [] := by
      obtain ⟨body, rfl⟩ := hbraced piece hpiece
      exact List.cons_ne_nil _ _
    obtain ⟨spans, hpairwise, hplaces⟩ :=
      ((CallScan.inOrder_objects inner).sublist hsub).exists_spans hnonempty (front ++ ['['])
        (']' :: behind)
    rw [List.append_assoc, List.append_assoc] at hplaces
    rw [htake]
    refine ⟨_, spans, hindices, hpairwise, forall₂_of_forall₂ hplaces hchosen ?_⟩
    rintro span piece hpiece call ⟨hstart, hend, hslice⟩ hcall
    rw [List.length_append, List.length_singleton] at hstart hend
    have hplace : slice raw.toList span = piece := by
      rw [htext]
      exact hslice
    refine ⟨hstart, by dsimp only; omega, ?_, ?_⟩
    · rw [hplace]
      exact hbraced piece hpiece
    · rw [hplace]
      exact CallItem.call?_eq_some_iff.mp hcall

/-- What the calls of a reply are in a text of any kind. -/
structure Extracted (raw : String) (reply : ModelReply) : Prop where
  limited : reply.toolCalls.length ≤ ToolCall.limit
  wellFormed : ∀ call ∈ reply.toolCalls, call.WellFormed
  places : reply.toolCalls ≠ [] →
    ∃ array spans, Field.spanIndices? raw.toList "tool_calls" '[' ']' = some array ∧
      spans.Pairwise (fun first second ↦ first.2 < second.1) ∧
      List.Forall₂ (ReadAt raw.toList array) spans reply.toolCalls
  elsewhere : ∀ other : String, callArray? other.toList = callArray? raw.toList →
    ∃ reply', (read other).2 = .ok reply' ∧ reply'.toolCalls = reply.toolCalls

/-- At most eight calls are accepted. Each is well-formed and has its own object within the closed
array of the reply, and no other part of the text has a bearing on them. -/
theorem extracted_of_read (raw : String) (reply : ModelReply) (hread : (read raw).2 = .ok reply) :
    Extracted raw reply where
  limited := by
    rw [toolCalls_of_read hread]
    exact List.length_take_le _ _
  wellFormed := fun _ hcall ↦ wellFormed_of_mem hread hcall
  places := exists_readAt hread
  elsewhere := fun _ hsame ↦ exists_read_of_callArray?_eq hread hsame

/-- A reply in prose that asks for the last error, for a tool that does not exist, and for three
lines of the log, with an object after the last call that is not closed in the array. -/
def proseReply : String :=
  "Let me look. \"tool_calls\": [\x7b\"name\": \"get_last_error\"\x7d, , " ++
    "\x7b\"name\": \"ls\"\x7d \x7b\"name\": \"get_command_log_tail\", " ++
    "\"args\": \x7b\"n_lines\": 3\x7d\x7d, \x7b] \x7d"

theorem extracted_proseReply :
    (read proseReply).2 = .ok
        { toolCalls := [{ name := "get_last_error" },
            { name := "get_command_log_tail", lineCount := 3 }] } ∧
      ∃ spans : List (Nat × Nat),
        spans.Pairwise (fun first second ↦ first.2 < second.1) ∧ spans.length = 2 := by
  have hread : (read proseReply).2 = .ok
      { toolCalls := [{ name := "get_last_error" },
          { name := "get_command_log_tail", lineCount := 3 }] } := by decide +kernel
  obtain ⟨_, spans, _, hpairwise, hspans⟩ :=
    (extracted_of_read _ _ hread).places (List.cons_ne_nil _ _)
  exact ⟨hread, spans, hpairwise, hspans.length_eq⟩

end ModelReply

end DeskAssistant
