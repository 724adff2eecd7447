import DeskAssistant.Completion.Channel
import DeskAssistant.Proofs.Fragment.Lookup
import Mathlib.Data.List.DropRight

/-!
# Replies embedded in an output

An agent may print anything around the document that holds its reply. The slice that is searched
begins with the document when no brace stands in front of it, and it ends with the last closing
brace of the output, which may lie behind the document (`objectSlice?_append`). The lookup comes to
its end inside the document, so that what the slice holds beyond it makes no difference
(`embedded_object`).
-/

set_option autoImplicit false
set_option relaxedAutoImplicit false

namespace DeskAssistant.Completion.Channel

open Fragment Json.Document

/-- The slice of an output runs from the first opening brace to the last closing one; of what
stands behind some closing brace it keeps the part up to the last one. -/
theorem objectSlice?_append {front : List Char} (hfront : '\x7b' ∉ front)
    (inner behind : List Char) :
    objectSlice? (front ++ '\x7b' :: (inner ++ '\x7d' :: behind)) =
      some ('\x7b' :: (inner ++ '\x7d' :: behind.rdropWhile (· ≠ '\x7d'))) := by
  have hbegin : (front ++ '\x7b' :: (inner ++ '\x7d' :: behind)).dropWhile (· ≠ '\x7b') =
      '\x7b' :: (inner ++ '\x7d' :: behind) := by
    rw [List.dropWhile_append_of_pos, List.dropWhile_cons_of_neg (by simp)]
    intro c hc
    simpa using fun heq : c = '\x7b' ↦ hfront (heq ▸ hc)
  have hend : ('\x7b' :: (inner ++ '\x7d' :: behind)).reverse.dropWhile (· ≠ '\x7d') =
      behind.reverse.dropWhile (· ≠ '\x7d') ++ '\x7d' :: (inner.reverse ++ ['\x7b']) := by
    have hreverse : ('\x7b' :: (inner ++ '\x7d' :: behind)).reverse =
        behind.reverse ++ '\x7d' :: (inner.reverse ++ ['\x7b']) := by simp
    rw [hreverse, List.dropWhile_append]
    split_ifs with hempty
    · rw [List.isEmpty_iff.mp hempty, List.dropWhile_cons_of_neg (by simp), List.nil_append]
    · rfl
  rw [objectSlice?, hbegin, hend]
  split
  · rename_i hnil
    simp at hnil
  · simp [List.rdropWhile]

/-- The first value of the reply's field is the reply, whatever stands behind the document, unless
it is longer than the limit. -/
theorem embedded_object {front : List Char} (hfront : '\x7b' ∉ front) (gap : Gap)
    {members : Members} (hkeys : PlainKeys members.entries) {spelling : Spelling}
    (hfirst : firstNamed? replyField members.entries = some (.string spelling))
    (behind : List Char) (limit : Int) :
    embedded (String.ofList (front ++ (Node.object gap members).text ++ behind)) replyField limit =
      if ((String.ofList spelling.decoded).utf8ByteSize : Int) ≤ limit then
        .ok (some (String.ofList spelling.decoded))
      else .error .replyTooLong := by
  have hslice : objectSlice? (front ++ (Node.object gap members).text ++ behind) =
      some ((Node.object gap members).text ++ behind.rdropWhile (· ≠ '\x7d')) := by
    have happend := objectSlice?_append hfront (gap.text ++ members.text true) behind
    simpa [Node.text] using happend
  have hnowhere : ¬ Field.quotedName replyField <:+: [] := by simp [Field.quotedName]
  obtain ⟨rest, _, hvalue⟩ := exists_value?_eq (by decide : IsName replyField) hnowhere gap hkeys
    (behind.rdropWhile (· ≠ '\x7d')) hfirst
  rw [List.nil_append] at hvalue
  rw [embedded, String.toList_ofList, hslice, Option.bind_some, string?_eq_of_value? hvalue]
  dsimp only
  split_ifs with hlong hshort hshort
  · omega
  · rfl
  · rfl
  · omega

/-- A reply with an escaped code above U+00FF, behind a member whose text names the field. -/
def namedTwice : Members :=
  let key (name : String) (h : Spelling.IsRaw name.toList) : Spelling := .raw name.toList h
  let note : Spelling :=
    .quote :: (key "response" (by decide) ++ .quote :: key ":\x7d" (by decide))
  let zero : HexDigit := ⟨'0', 0, rfl⟩
  let eAcute : Piece := .code zero zero ⟨'E', 14, rfl⟩ ⟨'9', 9, rfl⟩
  let lineSeparator : Piece := .code ⟨'2', 2, rfl⟩ zero ⟨'2', 2, rfl⟩ ⟨'8', 8, rfl⟩
  .cons .empty (key "stats" (by decide)) .empty .empty (.object .empty
    (.cons .empty (key "note" (by decide)) .empty .empty (.string note) .empty .nil)) .empty
  (.cons .empty (key "response" (by decide)) .empty .empty
    (.string (eAcute :: lineSeparator :: key "!" (by decide))) .empty .nil)

/-- Its three characters take four bytes. -/
theorem embedded_namedTwice :
    '\x7b' ∉ "Loaded.\n".toList ∧ PlainKeys namedTwice.entries ∧
      embedded (String.ofList ("Loaded.\n".toList ++ (Node.object .empty namedTwice).text ++
        "\x7d \x7b\"response\": \"?\"\x7d".toList)) replyField 4 = .ok (some "é?!") ∧
      embedded (String.ofList ("Loaded.\n".toList ++ (Node.object .empty namedTwice).text ++
        "\x7d \x7b\"response\": \"?\"\x7d".toList)) replyField 3 = .error .replyTooLong := by
  have hfront : '\x7b' ∉ "Loaded.\n".toList := by decide
  have hkeys : PlainKeys namedTwice.entries := by
    unfold PlainKeys
    decide
  have hembedded := embedded_object hfront .empty hkeys rfl
    "\x7d \x7b\"response\": \"?\"\x7d".toList
  exact ⟨hfront, hkeys, hembedded 4, hembedded 3⟩

end DeskAssistant.Completion.Channel
