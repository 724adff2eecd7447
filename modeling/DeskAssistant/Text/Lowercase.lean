import DeskAssistant.Text.LowercaseTable

/-!
# Lower case

Full lower case of a text. All characters but two are mapped one by one: the dotted capital I
becomes two characters, and a capital sigma at the end of a word becomes a final sigma.
-/

set_option autoImplicit false
set_option relaxedAutoImplicit false

namespace DeskAssistant.Text

/-- A code point lies in one of the ranges. -/
def inRanges (ranges : List (Nat × Nat)) (code : Nat) : Bool :=
  ranges.any (fun range ↦ range.1 ≤ code && code ≤ range.2)

/-- The lower case of a character that has exactly one. -/
def lowerChar (c : Char) : Char :=
  let code := c.toNat
  match lowercaseRuns.find? (fun run ↦
      run.1 ≤ code && code ≤ run.2.1 && (code - run.1) % run.2.2.1 == 0) with
  | some run => Char.ofNat ((code : Int) + run.2.2.2).toNat
  | none => c

/-- The nearest character that is not passed over has case. -/
def besideCased (neighbours : List Char) : Bool :=
  match neighbours.dropWhile (fun c ↦ inRanges caseIgnorableRanges c.toNat) with
  | [] => false
  | c :: _ => inRanges casedRanges c.toNat

/-- The lower case of `rest`, behind the characters `before`, which stand backwards as they were
written; `lowered` holds the result so far, backwards. -/
def lowerOnto (lowered before : List Char) : List Char → List Char
  | [] => lowered.reverse
  | c :: rest =>
    if c.toNat = 0x130 then
      lowerOnto (Char.ofNat 0x307 :: 'i' :: lowered) (c :: before) rest
    else if c.toNat = 0x3a3 then
      let final := besideCased before && !besideCased rest
      lowerOnto (Char.ofNat (if final then 0x3c2 else 0x3c3) :: lowered) (c :: before) rest
    else lowerOnto (lowerChar c :: lowered) (c :: before) rest

/-- A text in lower case. -/
def lowercase (text : String) : String := String.ofList (lowerOnto [] [] text.toList)

end DeskAssistant.Text
