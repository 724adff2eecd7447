import DeskAssistant.Proofs.Fragment.Balance
import DeskAssistant.Proofs.Text.Integer
import DeskAssistant.Proofs.Tool.Rendering
import DeskAssistant.Tool.Reply
import Mathlib.Data.List.Find
import Mathlib.Data.List.Infix

/-!
# Reading a rendered reply

A reply written by the schema is read back as it was meant, whatever order, space and spelling its
writer chose, and whatever stands around it. Each reader meets the part of the document that it
looks for: a number up to its last digit (`readInteger_numeral`), a field of an object
(`IsSchema.exists_value?_eq`), a call (`exists_read_eq`), the calls of an array in order
(`CallScan.readOnto_items`), and at last the reply (`ModelReply.read_rendered`).
-/

set_option autoImplicit false
set_option relaxedAutoImplicit false

namespace DeskAssistant

open Json.Document Fragment

/-! ### Integers -/

section Integers

theorem isDigit_digitChar (digit : Fin 10) :
    (digitChar digit).isDigit = true ∧ (digitChar digit).toNat - 48 = digit.val := by
  revert digit
  decide

/-- No digit follows a value. -/
theorem Fragment.Ends.isDigit_eq_false {rest : List Char} (h : Ends rest) :
    ∀ c ∈ rest.head?, c.isDigit = false := by
  cases rest with
  | nil => exact nofun
  | cons c rest =>
    intro other hother
    obtain rfl : c = other := Option.some.inj hother
    obtain ⟨gap, mark, behind, heq, hmark⟩ := h
    have hgap := gap.isGap_of_mem
    cases hspace : gap.text with
    | nil =>
      rw [hspace, List.nil_append] at heq
      cases heq
      rcases hmark with rfl | rfl | rfl <;> rfl
    | cons space more =>
      rw [hspace, List.cons_append] at heq
      cases heq
      have hc := hgap c (hspace ▸ List.mem_cons_self)
      simp only [isGap, Bool.or_eq_true, decide_eq_true_eq] at hc
      rcases hc with ((rfl | rfl) | rfl) | rfl <;> rfl

theorem ofDigits_digitChar (numeral : Numeral) :
    Nat.ofDigits 10 ((numeral.whole.map digitChar).map (·.toNat - 48)).reverse =
      numeral.wholeValue := by
  have hvalues : (numeral.whole.map digitChar).map (·.toNat - 48) =
      numeral.whole.map Fin.val := by
    rw [List.map_map]
    exact List.map_congr_left fun digit _ ↦ (isDigit_digitChar digit).2
  rw [hvalues, ← Text.valueOnto_eq_ofDigits, Text.valueOnto, List.foldl_map]
  rfl

/-- A numeral without point and exponent spells its integer. -/
theorem exists_delimits_numeral {numeral : Numeral} {value : Int}
    (h : numeral.integer? = some value) {rest : List Char} (hrest : Ends rest) :
    ∃ spelling, Text.Delimits (numeral.text ++ rest) [] spelling rest ∧
      spelling.digits = numeral.whole.map digitChar ∧ spelling.value = value := by
  obtain ⟨htext, hvalue⟩ := Numeral.text_of_integer? h
  have hne : numeral.whole.map digitChar ≠ [] := by simpa using numeral.whole_ne_nil
  have hdigit : ∀ c ∈ numeral.whole.map digitChar, c.isDigit = true := by
    intro c hc
    obtain ⟨digit, -, rfl⟩ := List.mem_map.mp hc
    exact (isDigit_digitChar digit).1
  refine ⟨⟨if numeral.isNegative then .minus else .absent, _, hne, hdigit⟩,
    ⟨?_, List.forall_mem_nil _, hrest.isDigit_eq_false⟩, rfl, ?_⟩
  · rw [htext, List.nil_append, Text.AsciiSpelling.text]
    cases numeral.isNegative <;> rfl
  · rw [Text.AsciiSpelling.value, ofDigits_digitChar, ← hvalue]
    cases numeral.isNegative <;> rfl

theorem readInteger_numeral {numeral : Numeral} {value : Int}
    (h : numeral.integer? = some value) (hdigits : numeral.whole.length ≤ Text.digitLimit)
    {rest : List Char} (hrest : Ends rest) :
    Text.readInteger (numeral.text ++ rest) = .ok (some (value, rest)) := by
  obtain ⟨spelling, hdelimits, hspelled, rfl⟩ := exists_delimits_numeral h hrest
  rw [Text.readInteger_of_delimits hdelimits, hspelled, List.length_map]
  exact if_pos hdigits

end Integers

/-! ### Fields of an object -/

section Fields

namespace Json.Document.IsSchema

variable {names inner : List String} {fields : List (String × (Node → Prop))} {name : String}
  {members : Members} {node : Node}

/-- The field of an object is found in a text that does not name it in front of the object. -/
theorem exists_value?_eq (hschema : IsSchema names inner fields) (hare : members.Are fields)
    {value : Node → Prop} (hfield : (name, value) ∈ fields) (hinner : name ∉ inner)
    {front : List Char} (hfront : ¬ Field.quotedName name <:+: front) (gap : Gap)
    (behind : List Char) :
    ∃ found rest, value found ∧ Ends rest ∧
      Field.value? (front ++ (Node.object gap members).text ++ behind) name =
        some (found.text ++ rest) := by
  have hname := hschema.isName_of_mem name (hschema.keys_of_mem _ hfield).1
  obtain ⟨found, hfound, hvalue⟩ := hschema.exists_firstNamed? hare hfield hinner
  obtain ⟨rest, hends, hlookup⟩ :=
    Fragment.exists_value?_eq hname hfront gap (hschema.plainKeys hare) behind hfound
  exact ⟨found, rest, hvalue, hends, hlookup⟩

theorem exists_value?_text_eq (hschema : IsSchema names inner fields) (h : node.HasFields fields)
    {value : Node → Prop} (hfield : (name, value) ∈ fields) (hinner : name ∉ inner) :
    ∃ found rest, value found ∧ Ends rest ∧
      Field.value? node.text name = some (found.text ++ rest) := by
  obtain ⟨gap, members, rfl, hare⟩ := h
  have hfront : ¬ Field.quotedName name <:+: [] := by simp [Field.quotedName]
  have hlookup := hschema.exists_value?_eq hare hfield hinner hfront gap []
  rw [List.nil_append, List.append_nil] at hlookup
  exact hlookup

theorem value?_eq_none (hschema : IsSchema names inner fields) (h : node.HasFields fields)
    (hname : name ∈ names) (hmissing : name ∉ fields.map Prod.fst) (hinner : name ∉ inner) :
    Field.value? node.text name = none := by
  obtain ⟨gap, members, rfl, hare⟩ := h
  exact Fragment.value?_eq_none (hschema.isName_of_mem name hname) (hschema.plainKeys hare)
    (hschema.firstNamed?_eq_none hare hmissing hinner)

end Json.Document.IsSchema

end Fields

/-! ### One call -/

section Calls

theorem lineCount_eq {arguments : CallArguments} {node : Node}
    (h : node.HasFields arguments.fields) : CallItem.lineCount node.text =
      .ok ((arguments.lineCount.filter (0 < ·)).getD Tool.defaultLineCount) := by
  cases hcount : arguments.lineCount with
  | none =>
    have hmissing : "n_lines" ∉ arguments.fields.map Prod.fst := by
      simp [CallArguments.fields, hcount]
    rw [CallItem.lineCount, arguments.isSchema.value?_eq_none h (by decide) hmissing (by decide)]
    rfl
  | some count =>
    have hfield : ("n_lines", fun node ↦ Node.Writes node count) ∈ arguments.fields := by
      simp [CallArguments.fields, hcount]
    obtain ⟨found, rest, ⟨numeral, rfl, hvalue, hdigits⟩, hends, hlookup⟩ :=
      arguments.isSchema.exists_value?_text_eq h hfield (by decide)
    have hread : Text.readInteger ((Node.numeral numeral).text ++ rest) =
        .ok (some (count, rest)) := readInteger_numeral hvalue hdigits hends
    rw [CallItem.lineCount, hlookup]
    dsimp only
    rw [hread]
    by_cases hpositive : 0 < count
    · simp [Except.map, Option.filter, hpositive]
    · simp [Except.map, Option.filter, hpositive]

theorem style_eq {arguments : CallArguments} {node : Node}
    (h : node.HasFields arguments.fields) : CallItem.style node.text =
      if arguments.style = some (Text.codeUnits Tool.fullStyle) then Tool.fullStyle
      else Tool.defaultStyle := by
  cases hstyle : arguments.style with
  | none =>
    have hmissing : "style" ∉ arguments.fields.map Prod.fst := by
      simp [CallArguments.fields, hstyle]
    have hstring : Field.string? node.text "style" = none := by
      rw [Field.string?, arguments.isSchema.value?_eq_none h (by decide) hmissing (by decide)]
      rfl
    rw [CallItem.style, hstring]
    rfl
  | some style =>
    have hfield : ("style", fun node ↦ Node.Spells node style) ∈ arguments.fields := by
      simp [CallArguments.fields, hstyle]
    obtain ⟨found, rest, ⟨spelling, rfl, hunits⟩, _, hlookup⟩ :=
      arguments.isSchema.exists_value?_text_eq h hfield (by decide)
    have hiff := spelling.ofList_decoded_eq_iff
      (show Spelling.IsUnmistakable Tool.fullStyle by decide)
    rw [CallItem.style, string?_eq_of_value? hlookup]
    simp only [Option.some.injEq, hiff, hunits]

/-- The name of a call picks the same tool by its meaning and as it is read. -/
theorem ofName?_decoded (spelling : Spelling) :
    Tool.ofName? (String.ofList spelling.decoded) =
      Tool.all.find? fun tool ↦ Text.codeUnits tool.name = spelling.units := by
  have hplain : ∀ tool ∈ Tool.all, Spelling.IsUnmistakable tool.name := by decide
  refine List.find?_congr fun tool htool ↦ decide_eq_decide.mpr ?_
  rw [eq_comm, spelling.ofList_decoded_eq_iff (hplain tool htool), eq_comm]

theorem exists_span?_eq {spec : CallSpec} {node : Node} (h : node.HasFields spec.fields) :
    (spec.arguments = none ∧ Field.span? node.text "args" '\x7b' '\x7d' = none) ∨
      ∃ arguments found, spec.arguments = some arguments ∧
        Node.HasFields found arguments.fields ∧
        Field.span? node.text "args" '\x7b' '\x7d' = some found.text := by
  cases harguments : spec.arguments with
  | none =>
    have hmissing : "args" ∉ spec.fields.map Prod.fst := by
      simp [CallSpec.fields, harguments]
    refine Or.inl ⟨rfl, ?_⟩
    rw [Field.span?, spec.isSchema.value?_eq_none h (by decide) hmissing (by decide)]
    rfl
  | some arguments =>
    have hfield : ("args", fun node ↦ Node.HasFields node arguments.fields) ∈ spec.fields := by
      simp [CallSpec.fields, harguments]
    obtain ⟨found, rest, hfound, _, hlookup⟩ :=
      spec.isSchema.exists_value?_text_eq h hfield (by decide)
    refine Or.inr ⟨arguments, found, rfl, hfound, ?_⟩
    obtain ⟨gap, members, rfl, _⟩ := hfound
    simp only [Field.span?, hlookup, Option.bind_eq_bind, Option.bind_some]
    exact span?_node rfl rest

/-- A rendered call is read as the call that is accepted for it, if any. -/
theorem exists_read_eq {spec : CallSpec} {node : Node} (h : node.HasFields spec.fields) :
    ∃ item, CallItem.read node.text = .ok item ∧
      ∀ call, item = .call call ↔ spec.call? = some call := by
  obtain ⟨found, rest, ⟨spelling, rfl, hunits⟩, _, hlookup⟩ :=
    spec.isSchema.exists_value?_text_eq h List.mem_cons_self (by decide)
  have htool := ofName?_decoded spelling
  rw [hunits] at htool
  rw [CallItem.read, string?_eq_of_value? hlookup]
  dsimp only
  cases hname : Tool.ofName? (String.ofList spelling.decoded) with
  | none =>
    have hcall : spec.call? = none := by
      rw [CallSpec.call?, ← htool, hname, Option.map_none]
    rw [hcall]
    split_ifs
    · exact ⟨_, rfl, by simp⟩
    · exact ⟨_, rfl, by simp⟩
  | some tool =>
    have hsame : tool.name = String.ofList spelling.decoded := by
      unfold Tool.ofName? at hname
      simpa using List.find?_some hname
    have hempty : (String.ofList spelling.decoded).isEmpty = false := by
      rw [← hsame]
      cases tool <;> rfl
    rw [hempty, if_neg (by decide), CallSpec.call?, ← htool, hname, ← hsame]
    obtain ⟨harguments, hspan⟩ | ⟨arguments, found, harguments, hfound, hspan⟩ :=
      exists_span?_eq h
    · rw [hspan, harguments]
      cases tool <;> exact ⟨_, rfl, by simp [Option.filter]⟩
    · rw [hspan, harguments]
      have hcount := lineCount_eq hfound
      have hstyle := style_eq hfound
      cases tool with
      | commandLogTail =>
        dsimp only
        rw [hcount]
        exact ⟨_, rfl, by simp⟩
      | lastModelSummary =>
        dsimp only
        rw [hstyle]
        exact ⟨_, rfl, by simp⟩
      | _ => exact ⟨_, rfl, by simp⟩

end Calls

/-! ### The array of calls -/

section Arrays

namespace CallScan

variable {scan : CallScan}

theorem finished_iff (hfault : scan.fault = none) :
    scan.finished = true ↔ ToolCall.limit ≤ scan.calls.length := by
  simp [finished, hfault]

theorem filterMap_cons_eq {α β : Type} (f : α → Option β) (first : α) (rest : List α) :
    (first :: rest).filterMap f = (f first).toList ++ rest.filterMap f := by
  cases h : f first <;> simp [h]

theorem readOnto_of_finished (h : scan.finished = true) (text : List Char) :
    scan.readOnto text = scan := by
  rw [readOnto, if_pos h]

/-- What the scan does next depends on the text behind its blanks. -/
theorem readOnto_eq (h : scan.finished = false) (text : List Char) :
    scan.readOnto text =
      match Text.skipBlanks text with
      | [] => scan
      | c :: rest =>
        if c = ',' then scan.readOnto rest
        else if c = '\x7b' then
          match Bracket.closing? '\x7b' '\x7d' (c :: rest) with
          | none => scan
          | some offset =>
            (scan.add (CallItem.read ((c :: rest).take (offset + 1)))).readOnto
              (rest.drop offset)
        else scan := by
  rw [readOnto, if_neg (by simp [h])]
  split
  all_goals
    rename_i hskipped
    generalize Text.skipBlanks text = skipped at hskipped ⊢
    subst hskipped
    rfl

theorem readOnto_gap (gap : Gap) (text : List Char) :
    scan.readOnto (gap.text ++ text) = scan.readOnto text := by
  cases hfinished : scan.finished with
  | true => rw [readOnto_of_finished hfinished, readOnto_of_finished hfinished]
  | false => rw [readOnto_eq hfinished, readOnto_eq hfinished, skipBlanks_gap_append]

theorem readOnto_separator (isFirst : Bool) (text : List Char) :
    scan.readOnto (separator isFirst ++ text) = scan.readOnto text := by
  cases isFirst with
  | true => rfl
  | false =>
    cases hfinished : scan.finished with
    | true => rw [readOnto_of_finished hfinished, readOnto_of_finished hfinished]
    | false =>
      rw [readOnto_eq hfinished]
      rfl

theorem readOnto_object (hfinished : scan.finished = false) (gap : Gap) (members : Members)
    (rest : List Char) :
    scan.readOnto ((Node.object gap members).text ++ rest) =
      (scan.add (CallItem.read (Node.object gap members).text)).readOnto rest := by
  have hclosing : Fragment.Bracket.closing? '\x7b' '\x7d' ((Node.object gap members).text ++ rest) =
      some ((Node.object gap members).text.length - 1) := closing?_node rfl rest
  have hblanks := skipBlanks_node (.object gap members) rest
  obtain ⟨inner, htext⟩ : ∃ inner, (Node.object gap members).text = '\x7b' :: inner := ⟨_, rfl⟩
  rw [htext] at hclosing hblanks ⊢
  rw [readOnto_eq hfinished, hblanks]
  rw [List.cons_append, List.length_cons, Nat.add_sub_cancel] at hclosing
  rw [List.cons_append]
  simp only [hclosing, if_true, if_neg (show ¬ '\x7b' = ',' by decide), List.take_succ_cons,
    List.take_left, List.drop_left]

theorem readOnto_cons (hfinished : scan.finished = false) (isFirst : Bool)
    (before after gap : Gap) (members : Members) (items : Items) :
    scan.readOnto ((Items.cons before (.object gap members) after items).text isFirst) =
      (scan.add (CallItem.read (Node.object gap members).text)).readOnto (items.text false) := by
  rw [Items.text, readOnto_separator, readOnto_gap, readOnto_object hfinished, readOnto_gap]

theorem add_read (scan : CallScan) {spec : CallSpec} {node : Node}
    (h : node.HasFields spec.fields) :
    (scan.add (CallItem.read node.text)).fault = scan.fault ∧
      (scan.add (CallItem.read node.text)).calls = scan.calls ++ spec.call?.toList := by
  obtain ⟨item, hread, hitem⟩ := exists_read_eq h
  have hnone (hother : ∀ call, item ≠ .call call) : spec.call? = none :=
    Option.eq_none_iff_forall_ne_some.mpr fun call heq ↦ hother call ((hitem call).mpr heq)
  rw [hread]
  cases item with
  | call call =>
    rw [(hitem call).mp rfl]
    exact ⟨rfl, rfl⟩
  | unknown name =>
    rw [hnone (by simp)]
    exact ⟨rfl, (List.append_nil _).symm⟩
  | unnamed =>
    rw [hnone (by simp)]
    exact ⟨rfl, (List.append_nil _).symm⟩

/-- From an array the calls of the specs are accepted in order, up to the limit. -/
theorem readOnto_items (items : Items) (isFirst : Bool) {specs : List CallSpec}
    (hitems : List.Forall₂ (fun item spec ↦ Node.HasFields item spec.fields) items.list specs)
    (scan : CallScan) (hfault : scan.fault = none) (hlimit : scan.calls.length ≤ ToolCall.limit) :
    (scan.readOnto (items.text isFirst)).fault = none ∧
      (scan.readOnto (items.text isFirst)).calls =
        (scan.calls ++ specs.filterMap CallSpec.call?).take ToolCall.limit := by
  cases hfinished : scan.finished with
  | true =>
    have hfull : ToolCall.limit ≤ scan.calls.length := (finished_iff hfault).mp hfinished
    rw [readOnto_of_finished hfinished, List.take_append_of_le_length hfull,
      List.take_of_length_le hlimit]
    exact ⟨hfault, rfl⟩
  | false =>
    match items with
    | .nil =>
      cases hitems
      rw [Items.text, readOnto_eq hfinished, List.filterMap_nil, List.append_nil,
        List.take_of_length_le hlimit]
      exact ⟨hfault, rfl⟩
    | .cons before node after items =>
      obtain _ | ⟨hnode, hrest⟩ := hitems
      rename_i spec specs
      obtain ⟨gap, members, rfl, _⟩ := id hnode
      obtain ⟨hsameFault, hcalls⟩ := add_read scan hnode
      have hroom : scan.calls.length < ToolCall.limit := by
        rw [← Nat.not_le, ← finished_iff hfault, hfinished]
        exact Bool.false_ne_true
      rw [readOnto_cons hfinished]
      have hnext := readOnto_items items false hrest
        (scan.add (CallItem.read (Node.object gap members).text)) (hsameFault.trans hfault) (by
          rw [hcalls, List.length_append]
          cases spec.call? <;> simp <;> omega)
      rw [hcalls, List.append_assoc] at hnext
      rw [filterMap_cons_eq]
      exact hnext

theorem read_array_eq (gap : Gap) (items : Items) :
    read (Node.array gap items).text = readOnto {} (items.text true) := by
  have hinner : ((Node.array gap items).text.drop 1).dropLast = gap.text ++ items.text true := by
    rw [Node.text, List.drop_succ_cons, List.drop_zero, ← List.append_assoc, List.dropLast_concat]
  rw [read, hinner, readOnto_gap]

theorem read_array (gap : Gap) (items : Items) {specs : List CallSpec}
    (hitems : List.Forall₂ (fun item spec ↦ Node.HasFields item spec.fields) items.list specs) :
    (read (Node.array gap items).text).fault = none ∧
      (read (Node.array gap items).text).calls =
        (specs.filterMap CallSpec.call?).take ToolCall.limit := by
  rw [read_array_eq]
  exact readOnto_items items true hitems {} rfl (Nat.zero_le _)

end CallScan

end Arrays

/-! ### The reply -/

namespace ModelReply

/-- A text that looks like a reply may stand in front of it, as long as none of the three fields is
named in it. -/
def NamesNoField (front : List Char) : Prop :=
  ∀ name ∈ ["assistant_text", "proposed_insert", "tool_calls"],
    ¬ Field.quotedName name <:+: front

instance (front : List Char) : Decidable (NamesNoField front) := List.decidableBAll _ _

/-- Both texts are read as they are spelled, and as calls the first ones that a tool answers. -/
theorem read_rendered {text insert : Spelling} {specs : List CallSpec} {node : Node}
    (hnode : node.HasFields (replyFields text insert specs)) {front : List Char}
    (hfront : NamesNoField front) (behind : List Char) :
    (read (String.ofList (front ++ node.text ++ behind))).2 = .ok
      { assistantText := String.ofList text.decoded
        proposedInsert := String.ofList insert.decoded
        toolCalls := (specs.filterMap CallSpec.call?).take ToolCall.limit } := by
  obtain ⟨gap, members, rfl, hare⟩ := hnode
  have hschema := isSchema_replyFields text insert specs
  obtain ⟨_, _, rfl, _, htext⟩ := hschema.exists_value?_eq hare List.mem_cons_self (by decide)
    (hfront _ List.mem_cons_self) gap behind
  obtain ⟨_, _, rfl, _, hinsert⟩ := hschema.exists_value?_eq hare
    (List.mem_cons_of_mem _ List.mem_cons_self) (by decide)
    (hfront _ (List.mem_cons_of_mem _ List.mem_cons_self)) gap behind
  obtain ⟨_, rest, ⟨arrayGap, items, rfl, hitems⟩, _, hcalls⟩ := hschema.exists_value?_eq hare
    (List.mem_cons_of_mem _ (List.mem_cons_of_mem _ List.mem_cons_self)) (by decide)
    (hfront _ (List.mem_cons_of_mem _ (List.mem_cons_of_mem _ List.mem_cons_self))) gap behind
  have harray : callArray? (front ++ (Node.object gap members).text ++ behind) =
      some (Node.array arrayGap items).text := by
    simp only [callArray?, Field.span?, hcalls, Option.bind_eq_bind, Option.bind_some]
    exact span?_node rfl rest
  obtain ⟨hfault, hscan⟩ := CallScan.read_array arrayGap items hitems
  rw [read, String.toList_ofList, string?_eq_of_value? htext, string?_eq_of_value? hinsert,
    harray]
  simp only [Option.map_some, Option.getD_some, hfault, hscan]

def logTailSpec : CallSpec where
  name := Text.codeUnits "get_command_log_tail"
  arguments := some { lineCount := some 5 }

/-! A reply's keys and the tool's name, spelled with nothing escaped. -/

def toolCallsKey : Spelling := .raw "tool_calls".toList (by decide)

def nameKey : Spelling := .raw "name".toList (by decide)

def argsKey : Spelling := .raw "args".toList (by decide)

def linesKey : Spelling := .raw "n_lines".toList (by decide)

def logTailText : Spelling := .raw "get_command_log_tail".toList (by decide)

/-- A reply that asks for five lines of the log, its first text an escaped quote. -/
def logTailReply : Node :=
  let key (name : String) (h : Spelling.IsRaw name.toList) : Spelling := .raw name.toList h
  let count : Node := .numeral ⟨false, [5], [], none, by decide, by decide⟩
  let arguments : Node := .object .empty (.cons .empty linesKey .empty .empty count .empty .nil)
  let tool : Node := .string logTailText
  let call : Node := .object .empty
    (.cons .empty argsKey .empty .empty arguments .empty
    (.cons .empty nameKey .empty .empty tool .empty .nil))
  let calls : Node := .array .empty (.cons .empty call .empty .nil)
  let text : Node := .string [.quote]
  .object .empty
    (.cons .empty toolCallsKey .empty .empty calls .empty
    (.cons .empty (key "assistant_text" (by decide)) .empty .empty text .empty
    (.cons .empty (key "proposed_insert" (by decide)) .empty .empty (.string []) .empty .nil)))

theorem hasFields_logTailReply :
    logTailReply.HasFields (replyFields [.quote] [] [logTailSpec]) := by
  have hkey (name : String) (h : Spelling.IsRaw name.toList) :
      (Spelling.raw name.toList h).body = name.toList := Spelling.body_raw _ h
  refine ⟨_, _, rfl, _, @List.perm_append_comm _ [_] [_, _], .cons ⟨hkey _ _, rfl⟩
    (.cons ⟨hkey _ _, rfl⟩ (.cons ⟨hkey _ _, _, _, rfl, .cons ?_ .nil⟩ .nil))⟩
  refine ⟨_, _, rfl, _, @List.perm_append_comm _ [_] [_], ?_⟩
  refine .cons ⟨hkey _ _, _, rfl, by decide⟩ (.cons ⟨hkey _ _, ?_⟩ .nil)
  exact ⟨_, _, rfl, _, .refl _, .cons ⟨hkey _ _, _, rfl, by decide, by decide⟩ .nil⟩

theorem read_logTailReply :
    NamesNoField "Sure: \x7b".toList ∧
      (read (String.ofList ("Sure: \x7b".toList ++ logTailReply.text ++ "\"name\":".toList))).2 =
        .ok { assistantText := "\""
              toolCalls := [{ name := "get_command_log_tail", lineCount := 5 }] } := by
  have hfront : NamesNoField "Sure: \x7b".toList := by decide +kernel
  have hcalls : ([logTailSpec].filterMap CallSpec.call?).take ToolCall.limit =
      [{ name := "get_command_log_tail", lineCount := 5 }] := by decide +kernel
  have hread := read_rendered hasFields_logTailReply hfront "\"name\":".toList
  rw [hcalls] at hread
  exact ⟨hfront, hread⟩

end ModelReply

end DeskAssistant
