import DeskAssistant.Proofs.Fragment.Balance
import DeskAssistant.Proofs.Fragment.Lookup

/-!
# Fields and brackets by index

In a whole document the lookup of a name ends where a reader of the structure would look: at the
value of the first member of that name (`valueIndex?_eq_start`). A value in brackets ends where its
text ends, wherever it stands (`closingIndex?_node`), so that the span of a field with such a value
is the value (`spanIndices?_of_valueIndex?`).
-/

set_option autoImplicit false
set_option relaxedAutoImplicit false

namespace DeskAssistant.Fragment

open Json.Document

variable {name : String}

/-! ### The value of a field -/

theorem Finds.valueIndex?_eq (hname : IsName name) {text : List Char} {found : Option Place}
    (h : Finds name 0 text [] found) :
    Field.valueIndex? text name = found.map Place.start := by
  rw [Field.valueIndex?, value?_eq hname]
  cases found with
  | none =>
    have hnone : Field.valueAnywhere? (Field.quotedName name) (text ++ []) = none := h
    rw [List.append_nil] at hnone
    rw [hnone]
    rfl
  | some place =>
    obtain ⟨between, behind, htext, hstart, _, hvalue⟩ := h
    rw [List.append_nil] at htext hvalue
    rw [hvalue, Option.map_some, Option.map_some, hstart, htext, List.length_append,
      Nat.add_sub_cancel, Nat.zero_add]

/-- The lookup of a name in a whole document. -/
theorem valueIndex?_eq_start (hname : IsName name) {sheet : Sheet}
    (hkeys : PlainKeys sheet.node.entries) :
    Field.valueIndex? sheet.text name = (firstPlace? name sheet.places).map Place.start := by
  refine Finds.valueIndex?_eq hname ?_
  have hnode : Finds name (0 + sheet.before.text.length) sheet.node.text (sheet.after.text ++ [])
      (firstPlace? name sheet.places) := by
    rw [List.append_nil, Nat.zero_add]
    exact finds_node hname _ sheet.node hkeys (isQuiet_gap sheet.after)
  exact (passes_gap sheet.before _).finds (hnode.passes (passes_gap sheet.after []))

/-- The lookup of a name in a document agrees with the structure of the document. -/
structure IsStructural (name : String) (sheet : Sheet) : Prop where
  /-- It finds the value of the first member whose key is written as the name, or nothing. -/
  index : Field.valueIndex? sheet.text name = (firstPlace? name sheet.places).map Place.start
  standsIn : ∀ place ∈ sheet.places, place.StandsIn sheet.text
  pairwise : sheet.places.Pairwise fun place next ↦ place.start < next.start

/-- No string is taken for a key, if no quote is escaped in a key. -/
theorem isStructural_of_plainKeys (hname : IsName name) (sheet : Sheet)
    (hkeys : PlainKeys sheet.node.entries) : IsStructural name sheet where
  index := valueIndex?_eq_start hname hkeys
  standsIn := fun _ hplace ↦ Sheet.standsIn_of_mem_places hplace
  pairwise := sheet.pairwise_places

/-- A document in which a name stands in two strings before it is the key of a member. -/
def decoys : Sheet :=
  let plain (string : String) (h : Spelling.IsRaw string.toList) : Spelling := .raw string.toList h
  let space : Gap := ⟨['\t', ' '], by simp [isGap]⟩
  let note : Spelling := .quote :: (plain "kind" (by decide) ++
    .quote :: plain ": " (by decide) ++ .quote :: plain "kind" (by decide))
  { before := space
    node := .array .empty (.cons .empty (.string note) .empty
      (.cons space (.string (plain "kind" (by decide))) .empty
        (.cons space (.object .empty (.cons space (plain "kind" (by decide)) space space
          (.word .null) .empty .nil)) space .nil)))
    after := space }

/-- The key is at the index 36 and its value at the index 47. -/
theorem isStructural_decoys :
    IsName "kind" ∧ PlainKeys decoys.node.entries ∧
      Field.valueIndex? decoys.text "kind" = some 47 := by
  have hname : IsName "kind" := by decide
  have hkeys : PlainKeys decoys.node.entries := by
    unfold PlainKeys
    decide
  exact ⟨hname, hkeys, (isStructural_of_plainKeys hname decoys hkeys).index.trans rfl⟩

/-! ### The end of a value -/

variable {node : Node} {opening closing : Char}

theorem closingIndex?_node (h : node.brackets? = some (opening, closing))
    (before after : List Char) :
    Bracket.closingIndex? opening closing (before ++ node.text ++ after) before.length =
      some (before.length + node.text.length - 1) := by
  have hlength : 1 ≤ node.text.length := by
    obtain ⟨c, text, htext, _⟩ := node.exists_text_eq_cons
    rw [htext]
    exact Nat.le_add_left 1 _
  rw [Bracket.closingIndex?, List.append_assoc, List.drop_left, closing?_node h, Option.map_some,
    Nat.add_sub_assoc hlength]

theorem value?_of_valueIndex? {before value : List Char}
    (h : Field.valueIndex? (before ++ value) name = some before.length) :
    Field.value? (before ++ value) name = some value := by
  obtain ⟨found, hfound, hlength⟩ := Option.map_eq_some_iff.mp h
  obtain ⟨front, hfront⟩ := Field.suffix_of_value? hfound
  have hsame : front.length = before.length := by
    rw [← hlength, ← hfront, List.length_append, Nat.add_sub_cancel]
  rw [hfound, (List.append_inj hfront hsame).2]

theorem spanIndices?_of_valueIndex? (h : node.brackets? = some (opening, closing))
    {before after : List Char}
    (hvalue : Field.valueIndex? (before ++ node.text ++ after) name = some before.length) :
    Field.spanIndices? (before ++ node.text ++ after) name opening closing =
      some (before.length, before.length + node.text.length - 1) := by
  have hclosing := closingIndex?_node h before after
  rw [List.append_assoc] at hvalue hclosing ⊢
  rw [Bracket.closingIndex?, List.drop_left] at hclosing
  obtain ⟨offset, hoffset, hend⟩ := Option.map_eq_some_iff.mp hclosing
  have hstart : (before ++ (node.text ++ after)).length - (node.text ++ after).length =
      before.length := by
    rw [List.length_append, Nat.add_sub_cancel]
  simp only [Field.spanIndices?, value?_of_valueIndex? hvalue, hoffset, hstart, ← hend,
    Option.bind_eq_bind, Option.bind_some, Option.pure_def]

/-- What the brackets around a value enclose. -/
structure Encloses (opening closing : Char) (node : Node) : Prop where
  /-- The scan from the first bracket ends at the last one, whatever stands around the value. -/
  scan : ∀ before after : List Char,
    Bracket.closingIndex? opening closing (before ++ node.text ++ after) before.length =
      some (before.length + node.text.length - 1)
  /-- The span of a field with this value is the value. -/
  span : ∀ (before after : List Char) (name : String),
    Field.valueIndex? (before ++ node.text ++ after) name = some before.length →
      Field.spanIndices? (before ++ node.text ++ after) name opening closing =
        some (before.length, before.length + node.text.length - 1)
  /-- So is the span of a name in a document whose first member of that name has this value. -/
  member : ∀ (sheet : Sheet) (name : String) (key : Spelling) (start : Nat), IsName name →
    PlainKeys sheet.node.entries → firstPlace? name sheet.places = some ⟨key, node, start⟩ →
      Field.spanIndices? sheet.text name opening closing =
        some (start, start + node.text.length - 1)

theorem spanIndices?_of_firstPlace? (h : node.brackets? = some (opening, closing)) {sheet : Sheet}
    (hname : IsName name) (hkeys : PlainKeys sheet.node.entries) {key : Spelling} {start : Nat}
    (hplace : firstPlace? name sheet.places = some ⟨key, node, start⟩) :
    Field.spanIndices? sheet.text name opening closing =
      some (start, start + node.text.length - 1) := by
  have hindex := valueIndex?_eq_start hname hkeys
  rw [hplace] at hindex
  obtain ⟨front, beforeColon, afterColon, behind, htext, hstart⟩ :=
    Sheet.standsIn_of_mem_places (List.mem_of_find?_eq_some hplace)
  dsimp only at htext hstart
  rw [htext, Option.map_some, hstart] at hindex
  rw [htext, hstart]
  exact spanIndices?_of_valueIndex? h hindex

/-- Brackets enclose the value to which they belong. -/
theorem encloses_of_brackets (h : node.brackets? = some (opening, closing)) :
    Encloses opening closing node where
  scan := closingIndex?_node h
  span := fun _ _ _ hvalue ↦ spanIndices?_of_valueIndex? h hvalue
  member := fun _ _ _ _ hname hkeys hplace ↦ spanIndices?_of_firstPlace? h hname hkeys hplace

/-- An array with brackets of both kinds in it, in a string and around values. -/
def nested : Node :=
  let string : Spelling := .quote :: Spelling.raw "]\x7d".toList (by decide)
  .array .empty (.cons .empty (.string string) .empty
    (.cons .empty (.array .empty .nil) .empty
      (.cons .empty (.object .empty .nil) .empty .nil)))

/-- A document with the array as its only member. -/
def nestedMember : Sheet :=
  { before := .empty
    node := .object .empty
      (.cons .empty (.raw "a".toList (by decide)) .empty .empty nested .empty .nil)
    after := .empty }

/-- The array has fourteen characters. -/
theorem encloses_nested :
    nested.brackets? = some ('[', ']') ∧
      Bracket.closingIndex? '[' ']' ("]".toList ++ nested.text ++ "]]".toList) 1 = some 14 ∧
      Field.spanIndices? nestedMember.text "a" '[' ']' = some (5, 18) := by
  have hencloses := encloses_of_brackets (show nested.brackets? = some ('[', ']') from rfl)
  have hkeys : PlainKeys nestedMember.node.entries := by
    unfold PlainKeys
    decide
  exact ⟨rfl, hencloses.scan "]".toList "]]".toList,
    hencloses.member nestedMember "a" _ 5 (by decide) hkeys rfl⟩

end DeskAssistant.Fragment
