import DeskAssistant.Proofs.Fragment.Lookup
import DeskAssistant.Tool.Call
import Mathlib.Data.List.Nodup

/-!
# Replies as they are rendered

Which documents render a reply: the three fields, each call with its name and perhaps arguments,
and the arguments that a call may have. Members stand in any order; texts are spelled in any way.
`IsSchema` says which names the fields of an object have and which keys stand deeper, so that the
first value of a name is that of its field (`IsSchema.exists_firstNamed?`).
-/

set_option autoImplicit false
set_option relaxedAutoImplicit false

namespace DeskAssistant

open Json.Document

/-! ### Members in any order -/

namespace Json.Document

/-- The value is a string with these units. -/
def Node.Spells (node : Node) (units : List Text.CodeUnit) : Prop :=
  ∃ spelling, node = .string spelling ∧ spelling.units = units

/-- The value is this integer, with no more digits than are converted. -/
def Node.Writes (node : Node) (value : Int) : Prop :=
  ∃ numeral, node = .numeral numeral ∧ numeral.integer? = some value ∧
    numeral.whole.length ≤ Text.digitLimit

/-- The members are these fields in any order, each with a key written as its name. -/
def Members.Are (members : Members) (fields : List (String × (Node → Prop))) : Prop :=
  ∃ listed, members.list.Perm listed ∧
    List.Forall₂ (fun member field ↦ member.1.body = field.1.toList ∧ field.2 member.2) listed
      fields

/-- The value is an object with these fields. -/
def Node.HasFields (node : Node) (fields : List (String × (Node → Prop))) : Prop :=
  ∃ gap members, node = .object gap members ∧ members.Are fields

/-- All keys in a document are written as one of these names. -/
def KeysIn (names : List String) (entries : List (Spelling × Node)) : Prop :=
  ∀ entry ∈ entries, ∃ name ∈ names, entry.1.body = name.toList

end Json.Document

/-! ### Keys -/

section Keys

open Fragment

theorem exists_mem_right {α β : Type} {relation : α → β → Prop} {left : List α} {right : List β}
    (h : List.Forall₂ relation left right) {a : α} (ha : a ∈ left) :
    ∃ b ∈ right, relation a b := by
  induction h with
  | nil => cases ha
  | cons hhead _ ih =>
    rcases List.mem_cons.mp ha with rfl | htail
    · exact ⟨_, List.mem_cons_self, hhead⟩
    · obtain ⟨b, hb, hrelated⟩ := ih htail
      exact ⟨b, List.mem_cons_of_mem _ hb, hrelated⟩

theorem exists_mem_left {α β : Type} {relation : α → β → Prop} {left : List α} {right : List β}
    (h : List.Forall₂ relation left right) {b : β} (hb : b ∈ right) :
    ∃ a ∈ left, relation a b := by
  induction h with
  | nil => cases hb
  | cons hhead _ ih =>
    rcases List.mem_cons.mp hb with rfl | htail
    · exact ⟨_, List.mem_cons_self, hhead⟩
    · obtain ⟨a, ha, hrelated⟩ := ih htail
      exact ⟨a, List.mem_cons_of_mem _ ha, hrelated⟩

namespace Json.Document

variable {names : List String} {name : String} {members : Members}
  {fields : List (String × (Node → Prop))}

theorem Members.entries_eq (members : Members) :
    members.entries = members.list.flatMap fun member ↦ member :: member.2.entries := by
  match members with
  | .nil => rfl
  | .cons _ key _ _ node _ rest =>
    rw [Members.entries, Members.list, List.flatMap_cons, rest.entries_eq, List.cons_append]

theorem Items.entries_eq (items : Items) : items.entries = items.list.flatMap Node.entries := by
  match items with
  | .nil => rfl
  | .cons _ node _ rest => rw [Items.entries, Items.list, List.flatMap_cons, rest.entries_eq]

theorem Members.Are.exists_field (hare : members.Are fields) {member : Spelling × Node}
    (hmember : member ∈ members.list) :
    ∃ field ∈ fields, member.1.body = field.1.toList ∧ field.2 member.2 := by
  obtain ⟨listed, hperm, hforall⟩ := hare
  exact exists_mem_right hforall (hperm.mem_iff.mp hmember)

theorem Members.Are.exists_member (hare : members.Are fields) {field : String × (Node → Prop)}
    (hfield : field ∈ fields) :
    ∃ member ∈ members.list, member.1.body = field.1.toList ∧ field.2 member.2 := by
  obtain ⟨listed, hperm, hforall⟩ := hare
  obtain ⟨member, hmember, hsame⟩ := exists_mem_left hforall hfield
  exact ⟨member, hperm.mem_iff.mpr hmember, hsame⟩

theorem KeysIn.firstNamed?_eq_none {entries : List (Spelling × Node)} (h : KeysIn names entries)
    (hname : name ∉ names) : firstNamed? name entries = none := by
  rw [firstNamed?, Option.map_eq_none_iff, List.find?_eq_none]
  intro entry hentry hbody
  obtain ⟨other, hother, hwritten⟩ := h entry hentry
  have hsame : name = other := String.toList_inj.mp ((of_decide_eq_true hbody).symm.trans hwritten)
  exact hname (hsame ▸ hother)

theorem KeysIn.plainKeys {entries : List (Spelling × Node)} (h : KeysIn names entries)
    (hnames : ∀ name ∈ names, IsName name) : PlainKeys entries := by
  intro entry hentry
  obtain ⟨name, hname, hwritten⟩ := h entry hentry
  by_contra hescapes
  rw [Bool.not_eq_false, Spelling.escapesQuote, List.any_eq_true] at hescapes
  obtain ⟨piece, hpiece, hquote⟩ := hescapes
  cases piece with
  | plain _ _ _ _ | code _ _ _ _ => cases hquote
  | short letter c hescape =>
    have hbackslash : '\\' ∈ entry.1.body :=
      List.mem_flatMap.mpr ⟨_, hpiece, List.mem_cons_self⟩
    exact ((hnames name hname).ne_quote (hwritten ▸ hbackslash)).2 rfl

theorem KeysIn.mono {entries : List (Spelling × Node)} {more : List String}
    (h : KeysIn names entries) (hmore : names ⊆ more) : KeysIn more entries := by
  intro entry hentry
  obtain ⟨name, hname, hwritten⟩ := h entry hentry
  exact ⟨name, hmore hname, hwritten⟩

theorem keysIn_of_spells {node : Node} {units : List Text.CodeUnit} (h : node.Spells units) :
    KeysIn names node.entries := by
  obtain ⟨spelling, rfl, _⟩ := h
  intro entry hentry
  cases hentry

theorem keysIn_of_writes {node : Node} {value : Int} (h : node.Writes value) :
    KeysIn names node.entries := by
  obtain ⟨numeral, rfl, _⟩ := h
  intro entry hentry
  cases hentry

/-- The fields have different names among `names`, and the keys in their values are of `inner`. -/
structure IsSchema (names inner : List String) (fields : List (String × (Node → Prop))) :
    Prop where
  isName_of_mem : ∀ name ∈ names, IsName name
  inner_subset : inner ⊆ names
  nodup : (fields.map Prod.fst).Nodup
  keys_of_mem : ∀ field ∈ fields, field.1 ∈ names ∧
    ∀ node, field.2 node → KeysIn inner node.entries

namespace IsSchema

variable {inner : List String}

theorem keysIn (hschema : IsSchema names inner fields) (hare : members.Are fields) :
    KeysIn names members.entries := by
  intro entry hentry
  rw [Members.entries_eq, List.mem_flatMap] at hentry
  obtain ⟨member, hmember, hentry⟩ := hentry
  obtain ⟨field, hfield, hwritten, hvalue⟩ := hare.exists_field hmember
  obtain ⟨hname, hkeys⟩ := hschema.keys_of_mem field hfield
  rcases List.mem_cons.mp hentry with rfl | hdeeper
  · exact ⟨field.1, hname, hwritten⟩
  · exact (hkeys _ hvalue).mono hschema.inner_subset entry hdeeper

theorem keysIn_of_hasFields (hschema : IsSchema names inner fields) {node : Node}
    (h : node.HasFields fields) : KeysIn names node.entries := by
  obtain ⟨gap, members, rfl, hare⟩ := h
  exact hschema.keysIn hare

theorem plainKeys (hschema : IsSchema names inner fields) (hare : members.Are fields) :
    PlainKeys members.entries :=
  (hschema.keysIn hare).plainKeys hschema.isName_of_mem

/-- A name that is no key of `inner` stands nowhere in the value of a member. -/
theorem exists_field (hschema : IsSchema names inner fields) (hare : members.Are fields)
    (hinner : name ∉ inner) : ∀ member ∈ members.list, ∃ field ∈ fields,
      member.1.body = field.1.toList ∧ field.2 member.2 ∧
        firstNamed? name member.2.entries = none := by
  intro member hmember
  obtain ⟨field, hfield, hwritten, hvalue⟩ := hare.exists_field hmember
  have hkeys := (hschema.keys_of_mem field hfield).2 _ hvalue
  exact ⟨field, hfield, hwritten, hvalue, hkeys.firstNamed?_eq_none hinner⟩

/-- The first value of a name is that of its field. -/
theorem exists_firstNamed? (hschema : IsSchema names inner fields) (hare : members.Are fields)
    {value : Node → Prop} (hfield : (name, value) ∈ fields) (hinner : name ∉ inner) :
    ∃ node, firstNamed? name members.entries = some node ∧ value node := by
  have hmembers := hschema.exists_field hare hinner
  obtain ⟨there, hthere, hbody, _⟩ := hare.exists_member hfield
  rw [Members.entries_eq]
  generalize members.list = list at hmembers hthere
  induction list with
  | nil => cases hthere
  | cons member rest ih =>
    rw [List.flatMap_cons, List.cons_append]
    obtain ⟨field, hmem, hwritten, hvalue, hdeeper⟩ := hmembers member List.mem_cons_self
    by_cases hkey : member.1.body = name.toList
    · have hname : field.1 = name := String.toList_inj.mp (hwritten.symm.trans hkey)
      rw [List.inj_on_of_nodup_map hschema.nodup hmem hfield hname] at hvalue
      exact ⟨member.2, firstNamed?_cons_self hkey _ _, hvalue⟩
    · rw [firstNamed?_cons_of_ne hkey, firstNamed?_append, hdeeper, Option.none_or]
      refine ih (fun other hother ↦ hmembers other (List.mem_cons_of_mem _ hother)) ?_
      rcases List.mem_cons.mp hthere with rfl | hrest
      · exact absurd hbody hkey
      · exact hrest

theorem firstNamed?_eq_none (hschema : IsSchema names inner fields) (hare : members.Are fields)
    (hmissing : name ∉ fields.map Prod.fst) (hinner : name ∉ inner) :
    firstNamed? name members.entries = none := by
  have hmembers := hschema.exists_field hare hinner
  rw [Members.entries_eq]
  generalize members.list = list at hmembers
  induction list with
  | nil => rfl
  | cons member rest ih =>
    obtain ⟨field, hmem, hwritten, _, hdeeper⟩ := hmembers member List.mem_cons_self
    have hkey : member.1.body ≠ name.toList := by
      intro hbody
      have hname : field.1 = name := String.toList_inj.mp (hwritten.symm.trans hbody)
      exact hmissing (List.mem_map.mpr ⟨field, hmem, hname⟩)
    rw [List.flatMap_cons, List.cons_append, firstNamed?_cons_of_ne hkey, firstNamed?_append,
      hdeeper, Option.none_or]
    exact ih fun other hother ↦ hmembers other (List.mem_cons_of_mem _ hother)

end IsSchema

end Json.Document

end Keys

/-! ### Calls -/

/-- The arguments of a call. -/
structure CallArguments where
  lineCount : Option Int := none
  style : Option (List Text.CodeUnit) := none

/-- A call that a reply asks for. -/
structure CallSpec where
  name : List Text.CodeUnit
  arguments : Option CallArguments := none

def CallArguments.fields (arguments : CallArguments) : List (String × (Node → Prop)) :=
  (arguments.lineCount.map fun count ↦ ("n_lines", fun node ↦ Node.Writes node count)).toList ++
    (arguments.style.map fun style ↦ ("style", fun node ↦ Node.Spells node style)).toList

def CallSpec.fields (spec : CallSpec) : List (String × (Node → Prop)) :=
  ("name", fun node ↦ Node.Spells node spec.name) ::
    (spec.arguments.map fun arguments ↦
      ("args", fun node ↦ Node.HasFields node arguments.fields)).toList

/-- The array of the calls. -/
def RendersCalls (specs : List CallSpec) (node : Node) : Prop :=
  ∃ gap items, node = .array gap items ∧
    List.Forall₂ (fun item spec ↦ Node.HasFields item spec.fields) items.list specs

/-- The fields of a reply whose two texts are spelled like this. -/
def replyFields (text insert : Spelling) (specs : List CallSpec) :
    List (String × (Node → Prop)) :=
  [("assistant_text", (· = .string text)), ("proposed_insert", (· = .string insert)),
    ("tool_calls", RendersCalls specs)]

/-- The call that is accepted for a spec. -/
def CallSpec.call? (spec : CallSpec) : Option ToolCall :=
  (Tool.all.find? fun tool ↦ Text.codeUnits tool.name = spec.name).map fun tool ↦
    { name := tool.name
      lineCount :=
        if tool = .commandLogTail then
          ((spec.arguments.bind (·.lineCount)).filter (0 < ·)).getD Tool.defaultLineCount
        else Tool.defaultLineCount
      style :=
        if tool = .lastModelSummary ∧
            spec.arguments.bind (·.style) = some (Text.codeUnits Tool.fullStyle) then
          Tool.fullStyle
        else Tool.defaultStyle }

/-! ### Keys of a reply -/

def argumentNames : List String := ["n_lines", "style"]

def callNames : List String := "name" :: "args" :: argumentNames

def replyNames : List String := "assistant_text" :: "proposed_insert" :: "tool_calls" :: callNames

theorem CallArguments.isSchema (arguments : CallArguments) :
    IsSchema argumentNames [] arguments.fields where
  isName_of_mem := by decide
  inner_subset := List.nil_subset _
  nodup := by
    cases hcount : arguments.lineCount <;> cases hstyle : arguments.style <;>
      simp [fields, hcount, hstyle]
  keys_of_mem := by
    intro field hfield
    rcases List.mem_append.mp hfield with hcount | hstyle
    · obtain ⟨count, _, rfl⟩ := Option.map_eq_some_iff.mp (Option.mem_toList.mp hcount)
      exact ⟨by simp [argumentNames], fun node hnode ↦ keysIn_of_writes hnode⟩
    · obtain ⟨style, _, rfl⟩ := Option.map_eq_some_iff.mp (Option.mem_toList.mp hstyle)
      exact ⟨by simp [argumentNames], fun node hnode ↦ keysIn_of_spells hnode⟩

theorem CallSpec.isSchema (spec : CallSpec) : IsSchema callNames argumentNames spec.fields where
  isName_of_mem := by decide
  inner_subset := by decide
  nodup := by
    cases harguments : spec.arguments <;> simp [fields, harguments]
  keys_of_mem := by
    intro field hfield
    rcases List.mem_cons.mp hfield with rfl | harguments
    · exact ⟨by simp [callNames], fun node hnode ↦ keysIn_of_spells hnode⟩
    · obtain ⟨arguments, _, rfl⟩ := Option.map_eq_some_iff.mp (Option.mem_toList.mp harguments)
      exact ⟨by simp [callNames],
        fun node hnode ↦ arguments.isSchema.keysIn_of_hasFields hnode⟩

theorem RendersCalls.keysIn {specs : List CallSpec} {node : Node} (h : RendersCalls specs node) :
    KeysIn callNames node.entries := by
  obtain ⟨gap, items, rfl, hitems⟩ := h
  intro entry hentry
  rw [Node.entries, Items.entries_eq, List.mem_flatMap] at hentry
  obtain ⟨item, hitem, hentry⟩ := hentry
  obtain ⟨spec, _, hfields⟩ := exists_mem_right hitems hitem
  exact spec.isSchema.keysIn_of_hasFields hfields entry hentry

theorem isSchema_replyFields (text insert : Spelling) (specs : List CallSpec) :
    IsSchema replyNames callNames (replyFields text insert specs) where
  isName_of_mem := by decide
  inner_subset := by decide
  nodup := by simp [replyFields]
  keys_of_mem := by
    intro field hfield
    simp only [replyFields, List.mem_cons, List.not_mem_nil, or_false] at hfield
    rcases hfield with rfl | rfl | rfl
    · exact ⟨by simp [replyNames], fun node hnode ↦ keysIn_of_spells ⟨text, hnode, rfl⟩⟩
    · exact ⟨by simp [replyNames], fun node hnode ↦ keysIn_of_spells ⟨insert, hnode, rfl⟩⟩
    · exact ⟨by simp [replyNames], fun node hnode ↦ hnode.keysIn⟩

end DeskAssistant
