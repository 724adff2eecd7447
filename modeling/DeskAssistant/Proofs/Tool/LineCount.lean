import DeskAssistant.Proofs.Text.Integer
import DeskAssistant.Proofs.Tool.RoundTrip

/-!
# Line counts in replies of any kind

A text that no schema was followed in is still read: a lookup that fails leaves its field out, and
an argument that is none leaves its default. One thing ends the reading with a fault, a line count
with more digits than are converted, in a call that the array has room for
(`ModelReply.reads_unless_overlong`).

The array is taken apart first: `CallScan.objects` are its closed objects, and reading it is a fold
over them (`readOnto_eq_foldl`), so that what one object does (`CallItem.exists_read_eq_ok_iff`,
`CallItem.lineCount_of_call?`) is carried along by induction on the list (`CallScan.foldl_step`).
That such a reply exists is shown on documents (`ModelReply.read_countReply`).
-/

set_option autoImplicit false
set_option relaxedAutoImplicit false

namespace DeskAssistant

open Json.Document Fragment

/-! ### One object -/

theorem Tool.ofName?_eq_some_iff {name : String} {tool : Tool} :
    Tool.ofName? name = some tool ↔ tool.name = name := by
  constructor
  · intro h
    simpa using List.find?_some h
  · rintro rfl
    cases tool <;> decide

namespace CallItem

/-- The text of the arguments from the line count on, in an object that asks for lines of the log
and says how many. -/
def lineText? (object : List Char) : Option (List Char) :=
  if Field.string? object "name" = some Tool.commandLogTail.name then
    (Field.span? object "args" '\x7b' '\x7d').bind (Field.value? · "n_lines")
  else none

/-- The line count has more digits than are converted. -/
def Overlong (object : List Char) : Prop :=
  ∃ text, lineText? object = some text ∧ ¬ Text.IsShort text

/-- The line count that a call for log lines carries: the integer written there if it is positive,
and the default otherwise. -/
def grantedCount (object : List Char) : Int :=
  (((lineText? object).bind Text.leadingInteger?).filter (0 < ·)).getD Tool.defaultLineCount

/-- The call that an object is read as. -/
def call? (object : List Char) : Option ToolCall :=
  match read object with
  | .ok (.call accepted) => some accepted
  | _ => none

variable {object : List Char}

theorem call?_eq_some_iff {accepted : ToolCall} :
    call? object = some accepted ↔ read object = .ok (.call accepted) := by
  unfold call?
  split <;> simp_all

theorem lineCount_eq_granted {arguments : List Char}
    (htext : lineText? object = Field.value? arguments "n_lines") (hshort : ¬ Overlong object) :
    lineCount arguments = .ok (grantedCount object) := by
  unfold lineCount grantedCount
  rw [← htext]
  cases hvalue : lineText? object with
  | none => rfl
  | some text =>
    have hdigits : Text.IsShort text := not_not.mp fun hlong ↦ hshort ⟨text, hvalue, hlong⟩
    dsimp only
    rw [Text.readInteger_eq, if_pos hdigits, Option.bind_some]
    cases Text.leadingInteger? text with
    | none => rfl
    | some value =>
      by_cases hpositive : 0 < value <;> simp [Except.map, Option.filter, hpositive]

theorem lineCount_eq_error {arguments text : List Char}
    (hvalue : Field.value? arguments "n_lines" = some text) (hlong : ¬ Text.IsShort text) :
    lineCount arguments = .error ⟨(Text.leadingDigits text).length⟩ := by
  rw [lineCount, hvalue]
  dsimp only
  rw [Text.readInteger_eq, if_neg hlong]
  rfl

/-- An object is read without its line count, or it is a call for log lines with arguments. -/
theorem read_cases (object : List Char) :
    (lineText? object = none ∧ ∃ item, read object = .ok item ∧
        ∀ call, item = .call call → call.lineCount = Tool.defaultLineCount) ∨
      ∃ arguments, lineText? object = Field.value? arguments "n_lines" ∧
        read object = (lineCount arguments).map fun count ↦
          .call { name := Tool.commandLogTail.name, lineCount := count } := by
  unfold lineText? read
  cases hname : Field.string? object "name" with
  | none => exact Or.inl ⟨rfl, .unnamed, rfl, by simp⟩
  | some name =>
    dsimp only
    by_cases hlog : name = Tool.commandLogTail.name
    · subst hlog
      rw [if_pos rfl, if_neg (by decide), Tool.ofName?_eq_some_iff.mpr rfl]
      cases Field.span? object "args" '\x7b' '\x7d' with
      | none => exact Or.inl ⟨rfl, _, rfl, by rintro _ ⟨⟩; rfl⟩
      | some arguments => exact Or.inr ⟨arguments, rfl, rfl⟩
    · have hother : ¬ some name = some Tool.commandLogTail.name := fun h ↦ hlog (Option.some.inj h)
      rw [if_neg hother]
      refine Or.inl ⟨rfl, ?_⟩
      split_ifs
      · exact ⟨.unnamed, rfl, by simp⟩
      · cases htool : Tool.ofName? name with
        | none => exact ⟨.unknown name, rfl, by simp⟩
        | some tool =>
          have hsame := Tool.ofName?_eq_some_iff.mp htool
          cases tool with
          | commandLogTail => exact absurd hsame.symm hlog
          | _ =>
            cases Field.span? object "args" '\x7b' '\x7d' <;>
              exact ⟨_, rfl, by rintro _ ⟨⟩; rfl⟩

/-- Only a line count that is too long ends the reading with a fault. -/
theorem exists_read_eq_ok_iff (object : List Char) :
    (∃ item, read object = .ok item) ↔ ¬ Overlong object := by
  obtain ⟨htext, item, hitem, _⟩ | ⟨arguments, htext, hread⟩ := read_cases object
  · have hshort : ¬ Overlong object := by simp [Overlong, htext]
    exact ⟨fun _ ↦ hshort, fun _ ↦ ⟨item, hitem⟩⟩
  · constructor
    · rintro ⟨item, hitem⟩ ⟨text, hlong, hnot⟩
      rw [htext] at hlong
      rw [hread, lineCount_eq_error hlong hnot] at hitem
      cases hitem
    · intro hshort
      rw [hread, lineCount_eq_granted htext hshort]
      exact ⟨_, rfl⟩

theorem read_eq_error {text : List Char} (htext : lineText? object = some text)
    (hlong : ¬ Text.IsShort text) :
    read object = .error ⟨(Text.leadingDigits text).length⟩ := by
  obtain ⟨hnone, _⟩ | ⟨arguments, hvalue, hread⟩ := read_cases object
  · rw [htext] at hnone
    cases hnone
  · rw [hread, lineCount_eq_error (hvalue.symm.trans htext) hlong]
    rfl

/-- Calls that read no line count carry the default. -/
theorem lineCount_of_call? {accepted : ToolCall} (hcall : call? object = some accepted) :
    accepted.lineCount = grantedCount object := by
  rw [call?_eq_some_iff] at hcall
  obtain ⟨htext, item, hitem, hdefault⟩ | ⟨arguments, htext, hread⟩ := read_cases object
  · rw [grantedCount, htext, hdefault accepted (Except.ok.inj (hitem.symm.trans hcall))]
    rfl
  · have hshort : ¬ Overlong object := (exists_read_eq_ok_iff object).mp ⟨_, hcall⟩
    rw [hread, lineCount_eq_granted htext hshort] at hcall
    cases hcall
    rfl

end CallItem

/-! ### The objects of an array -/

namespace CallScan

/-- The closed objects between the brackets of an array, with blanks and commas between them, up to
the first thing that is none. -/
def objects (text : List Char) : List (List Char) :=
  match _skipped : Text.skipBlanks text with
  | [] => []
  | c :: rest =>
    if c = ',' then objects rest
    else if c = '\x7b' then
      match Bracket.closing? '\x7b' '\x7d' (c :: rest) with
      | none => []
      | some offset => (c :: rest).take (offset + 1) :: objects (rest.drop offset)
    else []
  termination_by text.length
  decreasing_by
    · have := Text.length_skipBlanks_le text
      simp only [_skipped, List.length_cons] at this
      omega
    · have := Text.length_skipBlanks_le text
      simp only [_skipped, List.length_cons] at this
      simp only [List.length_drop]
      omega

/-- Takes up an object if one is still to be read. -/
def step (scan : CallScan) (object : List Char) : CallScan :=
  if scan.finished then scan else scan.add (CallItem.read object)

variable {scan : CallScan}

theorem foldl_step_of_finished (h : scan.finished = true) (objects : List (List Char)) :
    objects.foldl step scan = scan := by
  induction objects with
  | nil => rfl
  | cons object objects ih => rw [List.foldl_cons, step, if_pos h, ih]

theorem readOnto_eq_foldl (scan : CallScan) (text : List Char) :
    scan.readOnto text = (objects text).foldl step scan := by
  -- A scan that is finished stays what it is on both sides.
  have hsplit {scan : CallScan} {text : List Char} {list : List (List Char)}
      (h : scan.finished = false → scan.readOnto text = list.foldl step scan) :
      scan.readOnto text = list.foldl step scan := by
    cases hfinished : scan.finished with
    | true => rw [readOnto_of_finished hfinished, foldl_step_of_finished hfinished]
    | false => exact h hfinished
  fun_induction objects text generalizing scan with
  | case1 text hblanks =>
    refine hsplit fun hfinished ↦ ?_
    rw [readOnto_eq hfinished, hblanks, List.foldl_nil]
  | case2 text rest hblanks ih =>
    refine hsplit fun hfinished ↦ ?_
    rw [readOnto_eq hfinished, hblanks, ← ih scan]
    rfl
  | case3 text rest hblanks _ hopen =>
    refine hsplit fun hfinished ↦ ?_
    simp [readOnto_eq hfinished, hblanks, hopen]
  | case4 text rest offset hblanks _ hclosed ih =>
    refine hsplit fun hfinished ↦ ?_
    simp [readOnto_eq hfinished, hblanks, hclosed, step, hfinished, ih]
  | case5 text c rest hblanks hcomma hopening =>
    refine hsplit fun hfinished ↦ ?_
    simp [readOnto_eq hfinished, hblanks, hcomma, hopening]

/-- While there is room for more calls, `used` of which are there already, an object comes up whose
line count is too long. -/
def MeetsOverlong (used : Nat) (objects : List (List Char)) : Prop :=
  ∃ before object after, objects = before ++ object :: after ∧ CallItem.Overlong object ∧
    used + (before.filterMap CallItem.call?).length < ToolCall.limit

theorem not_meetsOverlong_nil (used : Nat) : ¬ MeetsOverlong used [] := by
  rintro ⟨before, object, after, heq, _⟩
  simp at heq

theorem not_meetsOverlong_of_full {used : Nat} (hfull : ToolCall.limit ≤ used)
    (objects : List (List Char)) : ¬ MeetsOverlong used objects := by
  rintro ⟨before, object, after, _, _, hroom⟩
  omega

theorem meetsOverlong_cons {used : Nat} (hroom : used < ToolCall.limit) (object : List Char)
    (objects : List (List Char)) :
    MeetsOverlong used (object :: objects) ↔ CallItem.Overlong object ∨
      MeetsOverlong (used + (CallItem.call? object).toList.length) objects := by
  have hlength (before : List (List Char)) :
      ((object :: before).filterMap CallItem.call?).length =
        (CallItem.call? object).toList.length + (before.filterMap CallItem.call?).length := by
    rw [filterMap_cons_eq, List.length_append]
  constructor
  · rintro ⟨before, overlong, after, heq, hlong, hbefore⟩
    cases before with
    | nil =>
      cases heq
      exact Or.inl hlong
    | cons first before =>
      cases heq
      rw [hlength] at hbefore
      exact Or.inr ⟨before, overlong, after, rfl, hlong, by omega⟩
  · rintro (hlong | ⟨before, overlong, after, rfl, hlong, hbefore⟩)
    · exact ⟨[], object, objects, rfl, hlong, hroom⟩
    · refine ⟨object :: before, overlong, after, rfl, hlong, ?_⟩
      rw [hlength]
      omega

theorem calls_add_read (scan : CallScan) (object : List Char) :
    (scan.add (CallItem.read object)).calls = scan.calls ++ (CallItem.call? object).toList := by
  unfold CallItem.call?
  cases CallItem.read object with
  | error fault => simp [add]
  | ok item => cases item <;> simp [add]

theorem fault_add_read (hfault : scan.fault = none) (object : List Char) :
    (scan.add (CallItem.read object)).fault = none ↔ ¬ CallItem.Overlong object := by
  rw [← CallItem.exists_read_eq_ok_iff]
  cases CallItem.read object with
  | error fault => simp [add]
  | ok item => cases item <;> simp [add, hfault]

/-- Reading ends with a fault exactly when it meets a line count that is too long; otherwise the
calls are accepted in order, up to the limit. -/
theorem foldl_step (objects : List (List Char)) (scan : CallScan) (hfault : scan.fault = none)
    (hlimit : scan.calls.length ≤ ToolCall.limit) :
    ((objects.foldl step scan).fault = none ↔ ¬ MeetsOverlong scan.calls.length objects) ∧
      ((objects.foldl step scan).fault = none → (objects.foldl step scan).calls =
        (scan.calls ++ objects.filterMap CallItem.call?).take ToolCall.limit) := by
  induction objects generalizing scan with
  | nil =>
    simp [hfault, not_meetsOverlong_nil, List.take_of_length_le hlimit]
  | cons object objects ih =>
    cases hfinished : scan.finished with
    | true =>
      have hfull : ToolCall.limit ≤ scan.calls.length := (finished_iff hfault).mp hfinished
      rw [foldl_step_of_finished hfinished, List.take_append_of_le_length hfull,
        List.take_of_length_le hlimit]
      exact ⟨iff_of_true hfault (not_meetsOverlong_of_full hfull _), fun _ ↦ rfl⟩
    | false =>
      have hroom : scan.calls.length < ToolCall.limit := by
        rw [← Nat.not_le, ← finished_iff hfault, hfinished]
        exact Bool.false_ne_true
      have hcalls := calls_add_read scan object
      rw [List.foldl_cons, step, if_neg (by simp [hfinished]), meetsOverlong_cons hroom]
      by_cases hlong : CallItem.Overlong object
      -- The fault ends the scan, and no later object is looked at.
      · have hended : (scan.add (CallItem.read object)).fault ≠ none :=
          mt (fault_add_read hfault object).mp (not_not.mpr hlong)
        have hnoMore : (scan.add (CallItem.read object)).finished = true := by
          simp [finished, Option.isSome_iff_ne_none, hended]
        rw [foldl_step_of_finished hnoMore]
        exact ⟨iff_of_false hended (not_not.mpr (Or.inl hlong)), fun h ↦ absurd h hended⟩
      · have hlength : (scan.add (CallItem.read object)).calls.length =
            scan.calls.length + (CallItem.call? object).toList.length := by
          rw [hcalls, List.length_append]
        have hone : (CallItem.call? object).toList.length ≤ 1 := by
          cases CallItem.call? object <;> simp
        have hnext := ih _ ((fault_add_read hfault object).mpr hlong) (by omega)
        rw [hlength, hcalls, List.append_assoc, ← filterMap_cons_eq] at hnext
        rw [or_iff_right hlong]
        exact hnext

end CallScan

/-! ### The reply -/

namespace ModelReply

/-- The closed objects in the array of calls of a reply. -/
def callObjects (raw : String) : List (List Char) :=
  ((callArray? raw.toList).map fun array ↦ CallScan.objects (array.drop 1).dropLast).getD []

/-- What is read from the array of calls of a reply, which is empty where there is none. -/
def scanOf (raw : String) : CallScan := ((callArray? raw.toList).map CallScan.read).getD {}

theorem scanOf_eq_foldl (raw : String) : scanOf raw = (callObjects raw).foldl CallScan.step {} := by
  unfold scanOf callObjects
  cases callArray? raw.toList with
  | none => rfl
  | some array => exact CallScan.readOnto_eq_foldl {} _

/-- The calls of a reply, and the fault in it, are those of its array. -/
theorem read_cases (raw : String) :
    ((scanOf raw).fault = none ∧ ∃ reply, (read raw).2 = .ok reply ∧
        reply.toolCalls = (scanOf raw).calls) ∨
      ∃ fault, (scanOf raw).fault = some fault ∧ (read raw).2 = .error fault := by
  unfold read scanOf
  dsimp only
  split
  · rename_i hnone
    rw [hnone]
    exact Or.inl ⟨rfl, _, rfl, rfl⟩
  · dsimp only
    cases hfault : (((callArray? raw.toList).map CallScan.read).getD {}).fault with
    | none => exact Or.inl ⟨rfl, _, rfl, rfl⟩
    | some fault => exact Or.inr ⟨fault, rfl, rfl⟩

/-- A text of any kind is read as a reply unless it meets a line count that is too long. The calls
of the reply are the first ones of its objects, each with the line count that it asks for if that
is a positive integer, and with the default otherwise. -/
theorem reads_unless_overlong (raw : String) :
    ((∃ reply, (read raw).2 = .ok reply) ↔ ¬ CallScan.MeetsOverlong 0 (callObjects raw)) ∧
      ∀ reply, (read raw).2 = .ok reply →
        reply.toolCalls = ((callObjects raw).filterMap CallItem.call?).take ToolCall.limit ∧
          ∀ call ∈ reply.toolCalls, ∃ object ∈ callObjects raw,
            CallItem.call? object = some call ∧ call.lineCount = CallItem.grantedCount object := by
  obtain ⟨hmeets, hcalls⟩ := CallScan.foldl_step (callObjects raw) {} rfl (Nat.zero_le _)
  rw [← scanOf_eq_foldl] at hmeets hcalls
  obtain ⟨hfault, reply, hread, hreply⟩ | ⟨fault, hfault, hread⟩ := read_cases raw
  · refine ⟨iff_of_true ⟨reply, hread⟩ (hmeets.mp hfault), fun other hother ↦ ?_⟩
    cases hread.symm.trans hother
    have htake := hreply.trans (hcalls hfault)
    refine ⟨htake, fun call hcall ↦ ?_⟩
    rw [htake] at hcall
    obtain ⟨object, hobject, heq⟩ := List.mem_filterMap.mp (List.mem_of_mem_take hcall)
    exact ⟨object, hobject, heq, CallItem.lineCount_of_call? heq⟩
  · refine ⟨iff_of_false ?_ fun h ↦ ?_, fun reply hreply ↦ ?_⟩
    · rintro ⟨reply, hreply⟩
      cases hread.symm.trans hreply
    · exact absurd (hfault.symm.trans (hmeets.mpr h)) (Option.some_ne_none fault)
    · cases hread.symm.trans hreply

/-- A reply that asks for minus three lines. -/
def negativeCount : String :=
  "\x7b\"tool_calls\": [\x7b\"name\": \"get_command_log_tail\", " ++
    "\"args\": \x7b\"n_lines\": -3\x7d\x7d]\x7d"

theorem reads_negativeCount :
    (read negativeCount).2 = .ok { toolCalls := [{ name := "get_command_log_tail" }] } ∧
      ∃ object ∈ callObjects negativeCount, CallItem.grantedCount object = 50 := by
  have hread : (read negativeCount).2 =
      .ok { toolCalls := [{ name := "get_command_log_tail" }] } := by decide +kernel
  obtain ⟨_, hcounts⟩ := (reads_unless_overlong negativeCount).2 _ hread
  obtain ⟨object, hobject, _, hcount⟩ := hcounts _ (List.mem_singleton_self _)
  exact ⟨hread, object, hobject, hcount.symm⟩

/-! ### A count that is too long -/

section Overlong

theorem leadingDigits_numeral {numeral : Numeral} {value : Int}
    (h : numeral.integer? = some value) {rest : List Char} (hrest : Ends rest) :
    Text.leadingDigits (numeral.text ++ rest) = numeral.whole.map digitChar := by
  obtain ⟨spelling, hdelimits, hspelled, -⟩ := exists_delimits_numeral h hrest
  rw [hdelimits.leadingDigits_eq, hspelled]

/-- Arguments that ask for as many lines as the numeral says. -/
def countArguments (numeral : Numeral) : Members :=
  .cons .empty linesKey .empty .empty (.numeral numeral) .empty .nil

def countCall (numeral : Numeral) : Members :=
  .cons .empty nameKey .empty .empty
    (.string logTailText) .empty
  (.cons .empty argsKey .empty .empty
    (.object .empty (countArguments numeral)) .empty .nil)

def countReply (numeral : Numeral) : Members :=
  .cons .empty toolCallsKey .empty .empty
    (.array .empty (.cons .empty (.object .empty (countCall numeral)) .empty .nil)) .empty .nil

theorem plainKeys_countArguments (numeral : Numeral) :
    PlainKeys (countArguments numeral).entries :=
  List.forall_mem_cons.mpr ⟨rfl, List.forall_mem_nil _⟩

theorem plainKeys_countCall (numeral : Numeral) : PlainKeys (countCall numeral).entries :=
  List.forall_mem_cons.mpr ⟨rfl, List.forall_mem_cons.mpr ⟨rfl, plainKeys_countArguments numeral⟩⟩

theorem plainKeys_countReply (numeral : Numeral) : PlainKeys (countReply numeral).entries :=
  List.forall_mem_cons.mpr ⟨rfl, plainKeys_countCall numeral⟩

variable {numeral : Numeral} {value : Int}

theorem exists_lineText?_countCall (numeral : Numeral) : ∃ rest, Ends rest ∧
    CallItem.lineText? (Node.object .empty (countCall numeral)).text =
      some (numeral.text ++ rest) := by
  have hnowhere (name : String) : ¬ Field.quotedName name <:+: [] := by simp [Field.quotedName]
  obtain ⟨_, _, hname⟩ := exists_value?_eq (by decide : IsName "name") (hnowhere _) .empty
    (plainKeys_countCall numeral) [] rfl
  obtain ⟨behind, _, harguments⟩ := exists_value?_eq (by decide : IsName "args") (hnowhere _)
    .empty (plainKeys_countCall numeral) [] rfl
  obtain ⟨rest, hrest, hcount⟩ := exists_value?_eq (by decide : IsName "n_lines") (hnowhere _)
    .empty (plainKeys_countArguments numeral) [] rfl
  rw [List.nil_append, List.append_nil] at hname harguments hcount
  have hspan : Field.span? (Node.object .empty (countCall numeral)).text "args" '\x7b' '\x7d' =
      some (Node.object .empty (countArguments numeral)).text := by
    simp only [Field.span?, harguments, Option.bind_eq_bind, Option.bind_some]
    exact span?_node rfl behind
  refine ⟨rest, hrest, ?_⟩
  rw [CallItem.lineText?, string?_eq_of_value? hname, if_pos (by decide), hspan, Option.bind_some,
    hcount]
  rfl

theorem read_countCall (hvalue : numeral.integer? = some value)
    (hlong : Text.digitLimit < numeral.whole.length) :
    CallItem.read (Node.object .empty (countCall numeral)).text =
      .error ⟨numeral.whole.length⟩ := by
  obtain ⟨rest, hrest, htext⟩ := exists_lineText?_countCall numeral
  have hlength : (Text.leadingDigits (numeral.text ++ rest)).length = numeral.whole.length := by
    rw [leadingDigits_numeral hvalue hrest, List.length_map]
  have hnotShort : ¬ Text.IsShort (numeral.text ++ rest) := by
    rw [Text.IsShort, hlength]
    exact Nat.not_le.mpr hlong
  rw [CallItem.read_eq_error htext hnotShort, hlength]

theorem read_countReply (hvalue : numeral.integer? = some value)
    (hlong : Text.digitLimit < numeral.whole.length) :
    (read (String.ofList (Node.object .empty (countReply numeral)).text)).2 =
      .error ⟨numeral.whole.length⟩ := by
  have hnowhere : ¬ Field.quotedName "tool_calls" <:+: [] := by simp [Field.quotedName]
  obtain ⟨rest, _, hcalls⟩ := exists_value?_eq (by decide : IsName "tool_calls") hnowhere .empty
    (plainKeys_countReply numeral) [] rfl
  rw [List.nil_append, List.append_nil] at hcalls
  have harray : callArray? (String.ofList (Node.object .empty (countReply numeral)).text).toList =
      some (Node.array .empty
        (.cons .empty (.object .empty (countCall numeral)) .empty .nil)).text := by
    simp only [String.toList_ofList, callArray?, Field.span?, hcalls, Option.bind_eq_bind,
      Option.bind_some]
    exact span?_node rfl rest
  have hscan : (scanOf (String.ofList (Node.object .empty (countReply numeral)).text)).fault =
      some ⟨numeral.whole.length⟩ := by
    rw [scanOf, harray, Option.map_some, Option.getD_some, CallScan.read_array_eq,
      CallScan.readOnto_cons rfl, read_countCall hvalue hlong, CallScan.readOnto_of_finished rfl]
    rfl
  obtain ⟨hfault, _⟩ | ⟨fault, hfault, hread⟩ := read_cases (String.ofList
    (Node.object .empty (countReply numeral)).text)
  · rw [hscan] at hfault
    cases hfault
  · rw [hscan] at hfault
    cases hfault
    exact hread

/-- No zero leads the nines. -/
theorem length_of_head?_nines (count : Nat) :
    (List.replicate (count + 1) (Fin.last 9)).head? = some 0 →
      (List.replicate (count + 1) (Fin.last 9)).length = 1 :=
  fun hzero ↦ absurd (Option.some.inj hzero) (by decide)

/-- As many nines as are one too many. -/
def nines : Numeral where
  isNegative := false
  whole := List.replicate (Text.digitLimit + 1) (Fin.last 9)
  fraction := []
  exponent := none
  whole_ne_nil := List.cons_ne_nil _ _
  length_of_zero := length_of_head?_nines Text.digitLimit

/-- The reading of a reply can end with a fault. -/
theorem read_countReply_nines :
    (read (String.ofList (Node.object .empty (countReply nines)).text)).2 = .error ⟨4301⟩ := by
  have hlength : nines.whole.length = 4301 := List.length_replicate
  have hread := read_countReply rfl (show Text.digitLimit < nines.whole.length by
    rw [hlength]
    decide)
  rw [hlength] at hread
  exact hread

end Overlong

end ModelReply

end DeskAssistant
