import DeskAssistant.Proofs.Fragment.Scan
import DeskAssistant.Proofs.Json.Place

/-!
# Lookups in documents

What a lookup by name finds in a document. `Finds` relates a text to the member that is found in it,
with its place, or to none, when the lookup goes on behind it. It is proved along the tree, with one
lemma for each way in which texts are put together: the member that is found is the first one, in
the order of the document and at any depth, whose key is written as the name (`finds_node`). Of what
stands behind a document only this matters, that a string at its end is not taken for a key
(`IsQuiet`).
-/

set_option autoImplicit false
set_option relaxedAutoImplicit false

namespace DeskAssistant.Fragment

open Json.Document

/-- The lookup of a name in a text, whose first character has the index `start`, finds the value of
this member there, or else goes on with the rest. -/
def Finds (name : String) (start : Nat) (text rest : List Char) : Option Place → Prop
  | none => Passes name text rest
  | some place => ∃ between behind,
      text ++ rest = between ++ (place.node.text ++ behind) ∧
        place.start = start + between.length ∧ Ends behind ∧
        Field.valueAnywhere? (Field.quotedName name) (text ++ rest) =
          some (place.node.text ++ behind)

variable {name : String} {start : Nat}

/-! ### Texts put together -/

theorem Passes.finds {first second rest : List Char} {found : Option Place}
    (hfirst : Passes name first (second ++ rest))
    (hsecond : Finds name (start + first.length) second rest found) :
    Finds name start (first ++ second) rest found := by
  cases found with
  | none => exact hfirst.append hsecond
  | some place =>
    obtain ⟨between, behind, htext, hstart, hends, hvalue⟩ := hsecond
    refine ⟨first ++ between, behind, ?_, ?_, hends, ?_⟩
    · rw [List.append_assoc, htext, List.append_assoc]
    · rw [hstart, List.length_append, Nat.add_assoc]
    · rw [List.append_assoc]
      exact hfirst.trans hvalue

theorem Finds.cons {c : Char} (hc : c ≠ '"') {text rest : List Char} {found : Option Place}
    (htext : Finds name (start + 1) text rest found) : Finds name start (c :: text) rest found := by
  have hpasses : Passes name [c] (text ++ rest) :=
    passes_of_not_mem (by simpa using hc.symm) _
  exact hpasses.finds htext

theorem Finds.append {first second rest : List Char} {found next : Option Place}
    (hfirst : Finds name start first (second ++ rest) found)
    (hsecond : Finds name (start + first.length) second rest next) :
    Finds name start (first ++ second) rest (found.or next) := by
  cases found with
  | none => exact Passes.finds hfirst hsecond
  | some place =>
    obtain ⟨between, behind, htext, hplace⟩ := hfirst
    refine ⟨between, behind, ?_, ?_⟩
    · rw [List.append_assoc]
      exact htext
    · rw [List.append_assoc]
      exact hplace

theorem Finds.passes {first second rest : List Char} {found : Option Place}
    (hfirst : Finds name start first (second ++ rest) found) (hsecond : Passes name second rest) :
    Finds name start (first ++ second) rest found := by
  have happend := hfirst.append
    (show Finds name (start + first.length) second rest none from hsecond)
  rw [Option.or_none] at happend
  exact happend

/-! ### Tokens -/

theorem passes_numeral (numeral : Numeral) (rest : List Char) : Passes name numeral.text rest :=
  passes_of_not_mem (fun h ↦ absurd (numeral.isNumeric_of_mem h) (by decide)) rest

theorem passes_word (word : Word) (rest : List Char) : Passes name word.text rest :=
  passes_of_not_mem (by rcases word with (_ | _) | _ <;> decide) rest

theorem skipBlanks_node (node : Node) (rest : List Char) :
    Text.skipBlanks (node.text ++ rest) = node.text ++ rest := by
  obtain ⟨c, text, htext, hblank⟩ := node.exists_text_eq_cons
  rw [htext, List.cons_append, skipBlanks_cons hblank]

/-! ### Members -/

/-- A member whose key is written as the name is found. -/
theorem finds_member {key : Spelling} (hkey : key.body = name.toList) (beforeColon afterColon : Gap)
    (node : Node) {text rest : List Char} (hends : Ends (text ++ rest)) :
    Finds name start
      (key.text ++ (beforeColon.text ++ ':' :: (afterColon.text ++ (node.text ++ text)))) rest
      (some ⟨key, node,
        start + key.text.length + beforeColon.text.length + 1 + afterColon.text.length⟩) := by
  refine ⟨key.text ++ (beforeColon.text ++ ':' :: afterColon.text), text ++ rest, by simp, ?_,
    hends, ?_⟩
  · simp only [List.length_append, List.length_cons]
    omega
  have htext : key.text ++ (beforeColon.text ++ ':' :: (afterColon.text ++ (node.text ++ text))) ++
      rest = Field.quotedName name ++
        (beforeColon.text ++ ':' :: (afterColon.text ++ (node.text ++ (text ++ rest)))) := by
    simp [Spelling.text, Field.quotedName, hkey]
  have hcolon : Text.skipBlanks
      (beforeColon.text ++ ':' :: (afterColon.text ++ (node.text ++ (text ++ rest)))) =
        ':' :: (afterColon.text ++ (node.text ++ (text ++ rest))) := by
    rw [skipBlanks_gap_append, skipBlanks_cons (by decide)]
  have hhere := valueHere?_quotedName name hcolon
  rw [skipBlanks_gap_append, skipBlanks_node] at hhere
  rw [htext]
  rw [Field.quotedName, List.cons_append] at hhere ⊢
  rw [Field.valueAnywhere?, hhere]

/-- A key that is written otherwise is passed, if no quote in it is escaped. -/
theorem passes_key (hname : IsName name) {key : Spelling} (hquote : key.escapesQuote = false)
    (hkey : key.body ≠ name.toList) (beforeColon : Gap) (rest : List Char) :
    Passes name key.text (beforeColon.text ++ ':' :: rest) :=
  passes_string hname key
    (hname.not_apart (apart_gap_append beforeColon (by decide) (by decide) rest))
    (fun h ↦ absurd h (by simp [hquote])) fun h ↦ absurd h hkey

theorem firstNamed?_cons_self {key : Spelling} (hkey : key.body = name.toList) (node : Node)
    (entries : List (Spelling × Node)) : firstNamed? name ((key, node) :: entries) = some node := by
  simp [firstNamed?, hkey]

theorem firstNamed?_cons_of_ne {key : Spelling} (hkey : key.body ≠ name.toList) (node : Node)
    (entries : List (Spelling × Node)) :
    firstNamed? name ((key, node) :: entries) = firstNamed? name entries := by
  simp [firstNamed?, hkey]

/-! ### Documents -/

theorem ends_items (items : Items) {rest : List Char} (hrest : Ends rest) :
    Ends (items.text false ++ rest) := by
  cases items with
  | nil => exact hrest
  | cons before node after items => exact ends_cons (Or.inl rfl) _

theorem ends_members (members : Members) {rest : List Char} (hrest : Ends rest) :
    Ends (members.text false ++ rest) := by
  cases members with
  | nil => exact hrest
  | cons before key beforeColon afterColon node after members => exact ends_cons (Or.inl rfl) _

/-- No quote is escaped in a key. -/
def PlainKeys (entries : List (Spelling × Node)) : Prop :=
  ∀ entry ∈ entries, entry.1.escapesQuote = false

theorem PlainKeys.left {first second : List (Spelling × Node)} (h : PlainKeys (first ++ second)) :
    PlainKeys first := fun entry hentry ↦ h entry (List.mem_append_left _ hentry)

theorem PlainKeys.right {first second : List (Spelling × Node)} (h : PlainKeys (first ++ second)) :
    PlainKeys second := fun entry hentry ↦ h entry (List.mem_append_right _ hentry)

/-- Neither the end of a name nor a colon stands at the beginning of the text. -/
structure IsQuiet (name : String) (rest : List Char) : Prop where
  not_name : ∀ behind, rest ≠ name.toList ++ '"' :: behind
  not_colon : ∀ behind, Text.skipBlanks rest ≠ ':' :: behind

theorem Ends.isQuiet (hname : IsName name) {rest : List Char} (h : Ends rest) :
    IsQuiet name rest :=
  ⟨hname.not_apart h.apart, h.skipBlanks_ne⟩

theorem isQuiet_gap (gap : Gap) : IsQuiet name gap.text := by
  constructor
  · intro behind hgap
    have hquote : '"' ∈ gap.text := by
      rw [hgap]
      exact List.mem_append_right _ List.mem_cons_self
    exact absurd (isGap_of_mem_gap hquote) (by decide)
  · intro behind hcolon
    have hblanks := skipBlanks_gap_append gap []
    rw [List.append_nil, hcolon] at hblanks
    cases hblanks

theorem finds_bracketed {opening : Char} (hopening : opening ≠ '"') (gap : Gap)
    {text rest : List Char} {closing : Char} (hclosing : closing ≠ '"') {found : Option Place}
    (hfinds : Finds name (start + 1 + gap.text.length) text (closing :: rest) found) :
    Finds name start (opening :: (gap.text ++ (text ++ [closing]))) rest found := by
  have hinner : Finds name (start + 1 + gap.text.length) (text ++ [closing]) rest found :=
    hfinds.passes (passes_of_not_mem (by simpa using hclosing.symm) rest)
  exact ((passes_gap gap _).finds hinner).cons hopening

mutual

/-- In a document the first member is found whose key is written as the name. -/
theorem finds_node (hname : IsName name) (start : Nat) (node : Node)
    (hkeys : PlainKeys node.entries) {rest : List Char} (hrest : IsQuiet name rest) :
    Finds name start node.text rest (firstPlace? name (node.places start)) := by
  cases node with
  | string spelling =>
    exact passes_string hname spelling hrest.not_name (fun _ ↦ hrest.not_colon)
      fun _ ↦ hrest.not_colon
  | numeral numeral => exact passes_numeral numeral rest
  | word word => exact passes_word word rest
  | array gap items =>
    exact finds_bracketed (by decide) gap (by decide)
      (finds_items hname _ items true hkeys (ends_cons (Or.inr (Or.inl rfl)) rest))
  | object gap members =>
    exact finds_bracketed (by decide) gap (by decide)
      (finds_members hname _ members true hkeys (ends_cons (Or.inr (Or.inr rfl)) rest))

theorem finds_items (hname : IsName name) (start : Nat) (items : Items) (isFirst : Bool)
    (hkeys : PlainKeys items.entries) {rest : List Char} (hrest : Ends rest) :
    Finds name start (items.text isFirst) rest
      (firstPlace? name (items.places isFirst start)) := by
  cases items with
  | nil => exact passes_nil rest
  | cons before node after items =>
    have hbehind : Ends ((after.text ++ items.text false) ++ rest) := by
      rw [List.append_assoc]
      exact (ends_items items hrest).gap_append after
    rw [Items.places, firstPlace?_append]
    refine (passes_separator isFirst _).finds ((passes_gap before _).finds (Finds.append ?_ ?_))
    · exact finds_node hname _ node hkeys.left (hbehind.isQuiet hname)
    · exact (passes_gap after _).finds (finds_items hname _ items false hkeys.right hrest)

theorem finds_members (hname : IsName name) (start : Nat) (members : Members) (isFirst : Bool)
    (hkeys : PlainKeys members.entries) {rest : List Char} (hrest : Ends rest) :
    Finds name start (members.text isFirst) rest
      (firstPlace? name (members.places isFirst start)) := by
  cases members with
  | nil => exact passes_nil rest
  | cons before key beforeColon afterColon node after members =>
    have hbehind : Ends ((after.text ++ members.text false) ++ rest) := by
      rw [List.append_assoc]
      exact (ends_members members hrest).gap_append after
    refine (passes_separator isFirst _).finds ((passes_gap before _).finds ?_)
    by_cases hkey : key.body = name.toList
    · rw [Members.places, firstPlace?_cons_self hkey]
      exact finds_member hkey beforeColon afterColon node hbehind
    · have hrestKeys : PlainKeys (node.entries ++ members.entries) :=
        fun entry hentry ↦ hkeys entry (List.mem_cons_of_mem _ hentry)
      rw [Members.places, firstPlace?_cons_of_ne hkey, firstPlace?_append]
      refine Passes.finds ?_ ((passes_gap beforeColon _).finds (Finds.cons (by decide)
        ((passes_gap afterColon _).finds (Finds.append ?_ ?_))))
      · rw [List.append_assoc]
        exact passes_key hname (hkeys _ List.mem_cons_self) hkey beforeColon _
      · exact finds_node hname _ node hrestKeys.left (hbehind.isQuiet hname)
      · exact (passes_gap after _).finds
          (finds_members hname _ members false hrestKeys.right hrest)

end

/-! ### Fields of a document in a text -/

theorem prefix_of_append_eq {α : Type} {pattern front behind rest : List α} {mark : α}
    (hmark : mark ∉ pattern) (h : front ++ mark :: behind = pattern ++ rest) :
    pattern <+: front := by
  rcases List.append_eq_append_iff.mp h with ⟨more, hpattern, hmore⟩ | ⟨more, hfront, _⟩
  · cases more with
    | nil => exact ⟨[], by simpa using hpattern⟩
    | cons first more =>
      cases hmore
      exact absurd (hpattern ▸ List.mem_append_right _ List.mem_cons_self) hmark
  · exact ⟨more, hfront.symm⟩

theorem passes_front (hname : IsName name) {front : List Char}
    (hfront : ¬ Field.quotedName name <:+: front) (rest : List Char) :
    Passes name front ('\x7b' :: rest) := by
  have hmark : '\x7b' ∉ Field.quotedName name := by
    intro hmem
    rw [Field.quotedName, List.mem_cons, List.mem_append, List.mem_singleton] at hmem
    rcases hmem with h | h | h
    · exact absurd h (by decide)
    · exact absurd (hname.2 _ h) (by decide)
    · exact absurd h (by decide)
  induction front with
  | nil => exact passes_nil _
  | cons c front ih =>
    refine passes_cons (valueHere?_eq_none fun after heq ↦ ?_) (ih fun hthere ↦ ?_)
    · exact absurd (prefix_of_append_eq hmark heq).isInfix hfront
    · exact hfront (hthere.trans (List.suffix_cons c front).isInfix)

/-- The lookup in a text with a document in it, when nothing in front has the name. -/
theorem finds_document (hname : IsName name) {front : List Char}
    (hfront : ¬ Field.quotedName name <:+: front) (gap : Gap) (members : Members)
    (hkeys : PlainKeys members.entries) (behind : List Char) :
    Finds name 0 (front ++ (Node.object gap members).text) behind
      (firstPlace? name ((Node.object gap members).places (0 + front.length))) :=
  (passes_front hname hfront _).finds (finds_bracketed (by decide) gap (by decide)
    (finds_members hname _ members true hkeys (ends_cons (Or.inr (Or.inr rfl)) behind)))

theorem value?_eq (hname : IsName name) (text : List Char) :
    Field.value? text name = Field.valueAnywhere? (Field.quotedName name) text := by
  rw [Field.value?, if_neg]
  intro hempty
  exact hname.1 (String.isEmpty_iff.mp hempty)

theorem firstNamed?_eq_map (name : String) (start : Nat) (gap : Gap) (members : Members) :
    firstNamed? name members.entries =
      (firstPlace? name ((Node.object gap members).places start)).map Place.node := by
  rw [← firstNamed?_map_entry, Node.map_places]
  rfl

theorem exists_value?_eq (hname : IsName name) {front : List Char}
    (hfront : ¬ Field.quotedName name <:+: front) (gap : Gap) {members : Members}
    (hkeys : PlainKeys members.entries) (behind : List Char) {node : Node}
    (hnode : firstNamed? name members.entries = some node) :
    ∃ rest, Ends rest ∧
      Field.value? (front ++ (Node.object gap members).text ++ behind) name =
        some (node.text ++ rest) := by
  have hfinds := finds_document hname hfront gap members hkeys behind
  rw [firstNamed?_eq_map name (0 + front.length) gap] at hnode
  obtain ⟨place, hplace, rfl⟩ := Option.map_eq_some_iff.mp hnode
  rw [hplace] at hfinds
  obtain ⟨_, rest, _, _, hends, hvalue⟩ := hfinds
  rw [value?_eq hname]
  exact ⟨rest, hends, hvalue⟩

theorem value?_eq_none (hname : IsName name) {gap : Gap} {members : Members}
    (hkeys : PlainKeys members.entries) (hnone : firstNamed? name members.entries = none) :
    Field.value? (Node.object gap members).text name = none := by
  have hfinds := finds_node hname 0 (.object gap members) hkeys (isQuiet_gap .empty)
  rw [firstNamed?_eq_map name 0 gap, Option.map_eq_none_iff] at hnone
  rw [hnone] at hfinds
  rw [value?_eq hname, ← List.append_nil (Node.object gap members).text]
  exact hfinds

theorem string?_eq_of_value? {name : String} {text rest : List Char} {spelling : Spelling}
    (h : Field.value? text name = some ((Node.string spelling).text ++ rest)) :
    Field.string? text name = some (String.ofList spelling.decoded) := by
  have hread : Literal.read ((Node.string spelling).text ++ rest) =
      some (spelling.decoded, rest) := read_append spelling rest
  simp [Field.string?, h, hread]

end DeskAssistant.Fragment
