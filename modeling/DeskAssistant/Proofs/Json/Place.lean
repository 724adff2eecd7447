import DeskAssistant.Proofs.Json.Document

/-!
# Places in a document

The members of a document with the indices at which their values begin. `Node.places` computes the
indices along the tree from the lengths of what is written in front; in the text the key, the colon
and the value stand where a place says (`Sheet.standsIn_of_mem_places`), and the places are in the
order of the text (`Sheet.pairwise_places`). The members are those of `Node.entries`
(`Node.map_places`).
-/

set_option autoImplicit false
set_option relaxedAutoImplicit false

namespace DeskAssistant.Json.Document

/-- A member of a document and the index at which its value begins. -/
structure Place where
  key : Spelling
  node : Node
  start : Nat

mutual

/-- The members in a document whose first character has the index `start`. -/
def Node.places (start : Nat) : Node → List Place
  | .string _ | .numeral _ | .word _ => []
  | .array gap items => items.places true (start + 1 + gap.text.length)
  | .object gap members => members.places true (start + 1 + gap.text.length)

def Items.places (isFirst : Bool) (start : Nat) : Items → List Place
  | .nil => []
  | .cons before node after rest =>
    let value := start + (separator isFirst).length + before.text.length
    node.places value ++ rest.places false (value + node.text.length + after.text.length)

def Members.places (isFirst : Bool) (start : Nat) : Members → List Place
  | .nil => []
  | .cons before key beforeColon afterColon node after rest =>
    let colon := start + (separator isFirst).length + before.text.length + key.text.length +
      beforeColon.text.length
    let value := colon + 1 + afterColon.text.length
    ⟨key, node, value⟩ ::
      (node.places value ++ rest.places false (value + node.text.length + after.text.length))

end

/-- A whole document: a value and the space around it. -/
structure Sheet where
  before : Gap
  node : Node
  after : Gap

namespace Sheet

def text (sheet : Sheet) : List Char :=
  sheet.before.text ++ (sheet.node.text ++ sheet.after.text)

/-- The members of the document, however deep, in the order in which they are written. -/
def places (sheet : Sheet) : List Place := sheet.node.places sheet.before.text.length

end Sheet

/-- The first member whose key is written as `name`. -/
def firstPlace? (name : String) (places : List Place) : Option Place :=
  places.find? fun place ↦ place.key.body = name.toList

theorem firstPlace?_append (name : String) (first second : List Place) :
    firstPlace? name (first ++ second) =
      (firstPlace? name first).or (firstPlace? name second) :=
  List.find?_append

theorem firstPlace?_cons_self {name : String} {place : Place}
    (hkey : place.key.body = name.toList) (places : List Place) :
    firstPlace? name (place :: places) = some place :=
  List.find?_cons_of_pos (by simpa using hkey)

theorem firstPlace?_cons_of_ne {name : String} {place : Place}
    (hkey : place.key.body ≠ name.toList) (places : List Place) :
    firstPlace? name (place :: places) = firstPlace? name places :=
  List.find?_cons_of_neg (by simpa using hkey)

/-! ### Members and entries -/

/-- The member without its place. -/
def Place.entry (place : Place) : Spelling × Node := (place.key, place.node)

mutual

theorem Node.map_places (start : Nat) (node : Node) :
    (node.places start).map Place.entry = node.entries := by
  cases node with
  | string _ | numeral _ | word _ => rfl
  | array gap items => exact items.map_places true _
  | object gap members => exact members.map_places true _

theorem Items.map_places (isFirst : Bool) (start : Nat) (items : Items) :
    (items.places isFirst start).map Place.entry = items.entries := by
  cases items with
  | nil => rfl
  | cons before node after rest =>
    rw [Items.places, Items.entries, List.map_append, node.map_places, rest.map_places]

theorem Members.map_places (isFirst : Bool) (start : Nat) (members : Members) :
    (members.places isFirst start).map Place.entry = members.entries := by
  cases members with
  | nil => rfl
  | cons before key beforeColon afterColon node after rest =>
    rw [Members.places, Members.entries, List.map_cons, List.map_append, node.map_places,
      rest.map_places]
    rfl

end

theorem firstNamed?_map_entry (name : String) (places : List Place) :
    firstNamed? name (places.map Place.entry) = (firstPlace? name places).map Place.node := by
  rw [firstNamed?, firstPlace?, List.find?_map, Option.map_map]
  rfl

/-! ### Places in the text -/

/-- The member stands in the text: its key, a colon and its value, which begins at the index of
the place. -/
def Place.StandsIn (place : Place) (text : List Char) : Prop :=
  ∃ (front : List Char) (beforeColon afterColon : Gap) (behind : List Char),
    text = front ++ place.key.text ++ beforeColon.text ++ [':'] ++ afterColon.text ++
        place.node.text ++ behind ∧
      place.start = (front ++ place.key.text ++ beforeColon.text ++ [':'] ++
        afterColon.text).length

theorem Place.StandsIn.append {place : Place} {text : List Char} (h : place.StandsIn text)
    (more : List Char) : place.StandsIn (text ++ more) := by
  obtain ⟨front, beforeColon, afterColon, behind, rfl, hstart⟩ := h
  exact ⟨front, beforeColon, afterColon, behind ++ more, by simp only [List.append_assoc], hstart⟩

mutual

theorem Node.standsIn_of_mem_places {front : List Char} {start : Nat}
    (hstart : start = front.length) {node : Node} {place : Place}
    (h : place ∈ node.places start) : place.StandsIn (front ++ node.text) := by
  cases node with
  | string _ | numeral _ | word _ => cases h
  | array gap items =>
    have hinner : start + 1 + gap.text.length = (front ++ ['['] ++ gap.text).length := by
      simp only [hstart, List.length_append, List.length_singleton]
    have hstands := (Items.standsIn_of_mem_places hinner h).append [']']
    simpa [Node.text] using hstands
  | object gap members =>
    have hinner : start + 1 + gap.text.length = (front ++ ['\x7b'] ++ gap.text).length := by
      simp only [hstart, List.length_append, List.length_singleton]
    have hstands := (Members.standsIn_of_mem_places hinner h).append ['\x7d']
    simpa [Node.text] using hstands

theorem Items.standsIn_of_mem_places {front : List Char} {start : Nat}
    (hstart : start = front.length) {isFirst : Bool} {items : Items} {place : Place}
    (h : place ∈ items.places isFirst start) : place.StandsIn (front ++ items.text isFirst) := by
  cases items with
  | nil => cases h
  | cons before node after rest =>
    obtain ⟨inner, hinner⟩ : ∃ inner, inner = front ++ separator isFirst ++ before.text := ⟨_, rfl⟩
    have hvalue : start + (separator isFirst).length + before.text.length = inner.length := by
      simp only [hinner, hstart, List.length_append]
    have hbehind : inner.length + node.text.length + after.text.length =
        (inner ++ node.text ++ after.text).length := by
      simp only [List.length_append]
    have htext : front ++ (Items.cons before node after rest).text isFirst =
        inner ++ node.text ++ after.text ++ rest.text false := by
      simp only [hinner, Items.text, List.append_assoc]
    rw [Items.places, hvalue, List.mem_append] at h
    rw [htext]
    rcases h with hnode | hrest
    · have hstands := Node.standsIn_of_mem_places rfl hnode
      exact (hstands.append after.text).append (rest.text false)
    · exact Items.standsIn_of_mem_places hbehind hrest

theorem Members.standsIn_of_mem_places {front : List Char} {start : Nat}
    (hstart : start = front.length) {isFirst : Bool} {members : Members} {place : Place}
    (h : place ∈ members.places isFirst start) :
    place.StandsIn (front ++ members.text isFirst) := by
  cases members with
  | nil => cases h
  | cons before key beforeColon afterColon node after rest =>
    obtain ⟨inner, hinner⟩ : ∃ inner, inner = front ++ separator isFirst ++ before.text ++
        key.text ++ beforeColon.text ++ [':'] ++ afterColon.text := ⟨_, rfl⟩
    have hvalue : start + (separator isFirst).length + before.text.length + key.text.length +
        beforeColon.text.length + 1 + afterColon.text.length = inner.length := by
      simp only [hinner, hstart, List.length_append, List.length_singleton]
    have hbehind : inner.length + node.text.length + after.text.length =
        (inner ++ node.text ++ after.text).length := by
      simp only [List.length_append]
    have htext : front ++ (Members.cons before key beforeColon afterColon node after rest).text
        isFirst = inner ++ node.text ++ after.text ++ rest.text false := by
      simp only [hinner, Members.text, List.append_assoc, List.cons_append, List.nil_append]
    rw [Members.places, hvalue, List.mem_cons, List.mem_append] at h
    rw [htext]
    rcases h with rfl | hnode | hrest
    · exact ⟨front ++ separator isFirst ++ before.text, beforeColon, afterColon,
        after.text ++ rest.text false, by simp only [hinner, List.append_assoc],
        by rw [hinner]⟩
    · have hstands := Node.standsIn_of_mem_places rfl hnode
      exact (hstands.append after.text).append (rest.text false)
    · exact Members.standsIn_of_mem_places hbehind hrest

end

theorem Sheet.standsIn_of_mem_places {sheet : Sheet} {place : Place}
    (h : place ∈ sheet.places) : place.StandsIn sheet.text := by
  have hstands := (Node.standsIn_of_mem_places rfl h).append sheet.after.text
  rw [List.append_assoc] at hstands
  exact hstands

/-! ### The order of places -/

/-- The places stand one behind the other between two indices. -/
structure AreInOrder (first last : Nat) (places : List Place) : Prop where
  pairwise : places.Pairwise fun place next ↦ place.start < next.start
  between : ∀ place ∈ places, first < place.start ∧ place.start < last

section AreInOrder

variable {first middle last : Nat} {before behind : List Place}

theorem areInOrder_nil (first last : Nat) : AreInOrder first last [] :=
  ⟨List.Pairwise.nil, List.forall_mem_nil _⟩

theorem AreInOrder.mono (h : AreInOrder first last before) {lower upper : Nat}
    (hlower : lower ≤ first) (hupper : last ≤ upper) : AreInOrder lower upper before := by
  refine ⟨h.pairwise, fun place hplace ↦ ?_⟩
  have hbetween := h.between place hplace
  omega

theorem AreInOrder.append (hbefore : AreInOrder first middle before)
    (hbehind : AreInOrder middle last behind) (hfirst : first ≤ middle) (hlast : middle ≤ last) :
    AreInOrder first last (before ++ behind) := by
  constructor
  · refine List.pairwise_append.mpr ⟨hbefore.pairwise, hbehind.pairwise, ?_⟩
    intro place hplace next hnext
    exact Nat.lt_trans (hbefore.between place hplace).2 (hbehind.between next hnext).1
  · intro place hplace
    rcases List.mem_append.mp hplace with hmem | hmem
    · have hbetween := hbefore.between place hmem
      omega
    · have hbetween := hbehind.between place hmem
      omega

theorem AreInOrder.cons {place : Place} (h : AreInOrder place.start last before)
    (hfirst : first < place.start) (hlast : place.start < last) :
    AreInOrder first last (place :: before) := by
  constructor
  · exact List.pairwise_cons.mpr ⟨fun next hnext ↦ (h.between next hnext).1, h.pairwise⟩
  · intro next hnext
    rcases List.mem_cons.mp hnext with rfl | hmem
    · exact ⟨hfirst, hlast⟩
    · have hbetween := h.between next hmem
      omega

end AreInOrder

mutual

theorem Node.areInOrder (start : Nat) (node : Node) :
    AreInOrder start (start + node.text.length) (node.places start) := by
  cases node with
  | string _ | numeral _ | word _ => exact areInOrder_nil _ _
  | array gap items =>
    refine (items.areInOrder true (start + 1 + gap.text.length)).mono (by omega) ?_
    simp only [Node.text, List.length_cons, List.length_append]
    omega
  | object gap members =>
    refine (members.areInOrder true (start + 1 + gap.text.length)).mono (by omega) ?_
    simp only [Node.text, List.length_cons, List.length_append]
    omega

theorem Items.areInOrder (isFirst : Bool) (start : Nat) (items : Items) :
    AreInOrder start (start + (items.text isFirst).length) (items.places isFirst start) := by
  cases items with
  | nil => exact areInOrder_nil _ _
  | cons before node after rest =>
    have hnode := node.areInOrder (start + (separator isFirst).length + before.text.length)
    have hrest := rest.areInOrder false (start + (separator isFirst).length + before.text.length +
      node.text.length + after.text.length)
    have hboth := (hnode.mono (Nat.le_refl _) (Nat.le_add_right _ after.text.length)).append hrest
      (by omega) (by omega)
    refine hboth.mono (by omega) ?_
    simp only [Items.text, List.length_append]
    omega

theorem Members.areInOrder (isFirst : Bool) (start : Nat) (members : Members) :
    AreInOrder start (start + (members.text isFirst).length) (members.places isFirst start) := by
  cases members with
  | nil => exact areInOrder_nil _ _
  | cons before key beforeColon afterColon node after rest =>
    obtain ⟨value, hvalue⟩ : ∃ value, value = start + (separator isFirst).length +
        before.text.length + key.text.length + beforeColon.text.length + 1 +
          afterColon.text.length := ⟨_, rfl⟩
    have hpositive : 0 < node.text.length := by
      obtain ⟨c, text, htext, _⟩ := node.exists_text_eq_cons
      rw [htext]
      exact Nat.zero_lt_succ _
    have hnode := node.areInOrder value
    have hrest := rest.areInOrder false (value + node.text.length + after.text.length)
    have hboth := (hnode.mono (Nat.le_refl _) (Nat.le_add_right _ after.text.length)).append hrest
      (by omega) (by omega)
    rw [Members.places, ← hvalue]
    refine AreInOrder.cons (hboth.mono (Nat.le_refl _) ?_) ?_ ?_ <;>
      simp only [Members.text, List.length_append, List.length_cons] <;> omega

end

/-- The places of a document are in the order of its text. -/
theorem Sheet.pairwise_places (sheet : Sheet) :
    sheet.places.Pairwise fun place next ↦ place.start < next.start :=
  (sheet.node.areInOrder sheet.before.text.length).pairwise

end DeskAssistant.Json.Document
