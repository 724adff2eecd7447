import DeskAssistant.Text.Utf8
import Mathlib.Tactic.Common

/-!
# Text is decoded from its bytes

The bytes of a character lead the decoder from one boundary to the next and leave the character
behind (`foldl_step_charBytes`). There is one case for each number of bytes. In each the leading
byte announces how many follow it, and the first of these lies in the range that the leading byte
sets for it, which is narrower at the ends of the code space and around the surrogates. The text is
read back character by character (`decodeLossy_toUTF8`).

In the other direction, a decoder that has met no invalid run accounts for every byte it has read:
they are the bytes of its characters and those that have opened the next one (`Accounts`). So strict
decoding accepts the bytes of texts and nothing else (`decodeStrict_eq_some_iff`), and what is in
front of the flaw of other bytes is a text (`exists_text_of_flaw`).
-/

set_option autoImplicit false
set_option relaxedAutoImplicit false

namespace DeskAssistant.Text.Utf8

/-! ### The bytes of a character -/

/-- The bytes of a character, as numbers. -/
def charBytes (c : Char) : List Nat := (String.utf8EncodeChar c).map UInt8.toNat

theorem charBytes_eq (c : Char) :
    charBytes c =
      if c.toNat ≤ 0x7f then [c.toNat]
      else if c.toNat ≤ 0x7ff then [c.toNat / 64 + 0xc0, c.toNat % 64 + 0x80]
      else if c.toNat ≤ 0xffff then
        [c.toNat / 4096 + 0xe0, c.toNat / 64 % 64 + 0x80, c.toNat % 64 + 0x80]
      else
        [c.toNat / 262144 + 0xf0, c.toNat / 4096 % 64 + 0x80, c.toNat / 64 % 64 + 0x80,
          c.toNat % 64 + 0x80] := by
  have hcode : c.toNat < 0xd800 ∨ (0xdfff < c.toNat ∧ c.toNat < 0x110000) := c.valid
  have hval : c.val.toNat = c.toNat := rfl
  unfold charBytes String.utf8EncodeChar
  simp only [hval]
  split_ifs <;>
    simp only [List.map_cons, List.map_nil, UInt8.toNat_ofNat', List.cons.injEq, and_true] <;>
    omega

/-! ### Leading bytes -/

theorem lead?_two {code : Nat} (hlow : 0x80 ≤ code) (hhigh : code ≤ 0x7ff) :
    lead? (code / 64 + 0xc0) = some ⟨code / 64, 0x80, 0xbf, 1⟩ := by
  unfold lead?
  rw [if_pos (by simp; omega)]
  simp

/-- The first following byte lies in the range that the leading byte sets for it. -/
theorem exists_lead?_three {code : Nat} (hlow : 0x800 ≤ code) (hhigh : code ≤ 0xffff)
    (hsurrogate : code < 0xd800 ∨ 0xdfff < code) :
    ∃ low high, lead? (code / 4096 + 0xe0) = some ⟨code / 4096, low, high, 2⟩ ∧
      low ≤ code / 64 % 64 + 0x80 ∧ code / 64 % 64 + 0x80 ≤ high := by
  by_cases hfirst : code / 4096 = 0
  · exact ⟨0xa0, 0xbf, by rw [hfirst]; rfl, by omega, by omega⟩
  by_cases hbefore : code / 4096 = 13
  · exact ⟨0x80, 0x9f, by rw [hbefore]; rfl, by omega, by omega⟩
  refine ⟨0x80, 0xbf, ?_, by omega, by omega⟩
  unfold lead?
  rw [if_neg (by simp), if_neg (by simp; omega), if_neg (by simp; omega), if_pos (by simp; omega)]
  simp

theorem exists_lead?_four {code : Nat} (hlow : 0x10000 ≤ code) (hhigh : code < 0x110000) :
    ∃ low high, lead? (code / 262144 + 0xf0) = some ⟨code / 262144, low, high, 3⟩ ∧
      low ≤ code / 4096 % 64 + 0x80 ∧ code / 4096 % 64 + 0x80 ≤ high := by
  by_cases hfirst : code / 262144 = 0
  · exact ⟨0x90, 0xbf, by rw [hfirst]; rfl, by omega, by omega⟩
  by_cases hlast : code / 262144 = 4
  · exact ⟨0x80, 0x8f, by rw [hlast]; rfl, by omega, by omega⟩
  refine ⟨0x80, 0xbf, ?_, by omega, by omega⟩
  have hlead : code / 262144 = 1 ∨ code / 262144 = 2 ∨ code / 262144 = 3 := by omega
  rcases hlead with h | h | h <;> rw [h] <;> rfl

/-! ### The decoder -/

variable (before : List (Option Char))

theorem step_lead {byte : Nat} {lead : Lead} (hbyte : 0x80 ≤ byte)
    (hlead : lead? byte = some lead) :
    step (before, .boundary) byte = (before, .inside lead) := by
  simp only [step, begin, hlead]
  rw [if_neg (by omega)]

theorem step_more {lead : Lead} {byte : Nat} (hlow : lead.low ≤ byte) (hhigh : byte ≤ lead.high)
    (hmore : lead.following ≠ 1) :
    step (before, .inside lead) byte =
      (before, .inside ⟨lead.bits * 64 + (byte - 0x80), 0x80, 0xbf, lead.following - 1⟩) := by
  rw [step, if_pos (by simp [hlow, hhigh])]
  exact if_neg hmore

theorem step_last {lead : Lead} {byte : Nat} (hlow : lead.low ≤ byte) (hhigh : byte ≤ lead.high)
    (hlast : lead.following = 1) :
    step (before, .inside lead) byte =
      (some (Char.ofNat (lead.bits * 64 + (byte - 0x80))) :: before, .boundary) := by
  rw [step, if_pos (by simp [hlow, hhigh])]
  exact if_pos hlast

theorem foldl_step_charBytes (c : Char) :
    (charBytes c).foldl step (before, .boundary) = (some c :: before, .boundary) := by
  have hvalid : c.toNat < 0xd800 ∨ (0xdfff < c.toNat ∧ c.toNat < 0x110000) := c.valid
  have hread {code : Nat} (hcode : code = c.toNat) : Char.ofNat code = c := by
    rw [hcode, Char.ofNat_toNat]
  rw [charBytes_eq]
  split_ifs with hone htwo hthree
  · simp only [List.foldl_cons, List.foldl_nil, step, begin]
    rw [if_pos (by omega), hread rfl]
  · simp only [List.foldl_cons, List.foldl_nil]
    rw [step_lead before (by omega) (lead?_two (by omega) htwo),
      step_last before (by dsimp only; omega) (by dsimp only; omega) rfl,
      hread (by dsimp only; omega)]
  · obtain ⟨low, high, hlead, hlow, hhigh⟩ :=
      exists_lead?_three (by omega : 0x800 ≤ c.toNat) hthree (by omega)
    simp only [List.foldl_cons, List.foldl_nil]
    rw [step_lead before (by omega) hlead, step_more before hlow hhigh (by simp),
      step_last before (by dsimp only; omega) (by dsimp only; omega) rfl,
      hread (by dsimp only; omega)]
  · obtain ⟨low, high, hlead, hlow, hhigh⟩ :=
      exists_lead?_four (by omega : 0x10000 ≤ c.toNat) (by omega)
    simp only [List.foldl_cons, List.foldl_nil]
    rw [step_lead before (by omega) hlead, step_more before hlow hhigh (by simp),
      step_more before (by dsimp only; omega) (by dsimp only; omega) (by simp),
      step_last before (by dsimp only; omega) (by dsimp only; omega) rfl,
      hread (by dsimp only; omega)]

/-! ### Byte strings -/

theorem foldl_loop_eq {β : Type} (f : β → UInt8 → β) (bytes : ByteArray) (count index : Nat)
    (value : β) (hindex : index + count = bytes.size) :
    ByteArray.foldlM.loop (m := Id) (fun value byte ↦ pure (f value byte)) bytes bytes.size
      (Nat.le_refl _) count index value = (bytes.data.toList.drop index).foldl f value := by
  induction count generalizing index value with
  | zero =>
    have hnone : bytes.data.toList.drop index = [] :=
      List.drop_of_length_le (by simpa using by omega)
    rw [hnone, ByteArray.foldlM.loop]
    split <;> rfl
  | succ count ih =>
    have hlt : index < bytes.size := by omega
    have hbyte : bytes.data.toList.drop index =
        bytes[index] :: bytes.data.toList.drop (index + 1) :=
      List.drop_eq_getElem_cons _
    rw [hbyte, List.foldl_cons, ← ih (index + 1) _ (by omega), ByteArray.foldlM.loop, dif_pos hlt]
    rfl

theorem foldl_eq {β : Type} (f : β → UInt8 → β) (bytes : ByteArray) (value : β) :
    bytes.foldl f value = bytes.data.toList.foldl f value := by
  rw [ByteArray.foldl, ByteArray.foldlM]
  dsimp only
  rw [dif_pos (Nat.le_refl _)]
  exact foldl_loop_eq f bytes bytes.size 0 value (Nat.zero_add _)

theorem toUTF8_toList (text : String) :
    text.toUTF8.data.toList.map UInt8.toNat = text.toList.flatMap charBytes := by
  rw [String.toUTF8_eq_toByteArray, ← String.utf8Encode_toList, List.utf8Encode,
    List.toList_data_toByteArray, List.map_flatMap]
  rfl

theorem foldl_step_flatMap (chars : List Char) :
    (chars.flatMap charBytes).foldl step (before, .boundary) =
      ((chars.map some).reverse ++ before, .boundary) := by
  induction chars generalizing before with
  | nil => rfl
  | cons c chars ih =>
    rw [List.flatMap_cons, List.foldl_append, foldl_step_charBytes, ih]
    simp

theorem units_toUTF8 (text : String) : units text.toUTF8 = text.toList.map some := by
  have hbytes : text.toUTF8.foldl (fun state byte ↦ step state byte.toNat) ([], .boundary) =
      (text.toList.flatMap charBytes).foldl step ([], .boundary) := by
    rw [foldl_eq, ← toUTF8_toList, List.foldl_map]
  rw [units, hbytes, foldl_step_flatMap, finish, List.append_nil, List.reverse_reverse]

/-- Nothing is lost between a text and its bytes. -/
theorem decodeLossy_toUTF8 (text : String) : decodeLossy text.toUTF8 = text := by
  rw [decodeLossy, units_toUTF8, List.map_map]
  have hread : (fun unit : Option Char ↦ unit.getD (Char.ofNat 0xfffd)) ∘ some = id := rfl
  rw [hread, List.map_id, String.ofList_toList]

/-! ### Bytes that are accepted -/

/-- Whichever `more` bytes continue a character, the bytes in `pending` and these are the bytes of
the character that comes out. -/
def CompletesAfter : Nat → Nat → List Nat → Prop
  | 0, code, pending => charBytes (Char.ofNat code) = pending
  | more + 1, bits, pending => ∀ byte, 0x80 ≤ byte → byte ≤ 0xbf →
      CompletesAfter more (bits * 64 + (byte - 0x80)) (pending ++ [byte])

/-- The bytes in `pending` have led the decoder into a character. -/
def Opens (lead : Lead) (pending : List Nat) : Prop :=
  0 < lead.following ∧ ∀ byte, lead.low ≤ byte → byte ≤ lead.high →
    CompletesAfter (lead.following - 1) (lead.bits * 64 + (byte - 0x80)) (pending ++ [byte])

theorem charBytes_ofNat {code : Nat} (h : code < 0xd800 ∨ (0xdfff < code ∧ code < 0x110000)) :
    charBytes (Char.ofNat code) =
      if code ≤ 0x7f then [code]
      else if code ≤ 0x7ff then [code / 64 + 0xc0, code % 64 + 0x80]
      else if code ≤ 0xffff then
        [code / 4096 + 0xe0, code / 64 % 64 + 0x80, code % 64 + 0x80]
      else
        [code / 262144 + 0xf0, code / 4096 % 64 + 0x80, code / 64 % 64 + 0x80,
          code % 64 + 0x80] := by
  have hcode : (Char.ofNat code).toNat = code := by
    have hvalid : code.isValidChar := h
    rw [Char.ofNat, dif_pos hvalid]
    rfl
  rw [charBytes_eq, hcode]

theorem charBytes_two {first second : Nat} (hfirst : 0xc2 ≤ first ∧ first ≤ 0xdf)
    (hsecond : 0x80 ≤ second ∧ second ≤ 0xbf) :
    charBytes (Char.ofNat ((first - 0xc0) * 64 + (second - 0x80))) = [first, second] := by
  rw [charBytes_ofNat (by omega), if_neg (by omega), if_pos (by omega)]
  simp only [List.cons.injEq, and_true]
  omega

/-- The range of the second byte leaves out what is encoded in two bytes, and the surrogates. -/
theorem charBytes_three {first second third : Nat} (hfirst : 0xe0 ≤ first ∧ first ≤ 0xef)
    (hsecond : 0x80 ≤ second ∧ second ≤ 0xbf) (hthird : 0x80 ≤ third ∧ third ≤ 0xbf)
    (hlow : first = 0xe0 → 0xa0 ≤ second) (hhigh : first = 0xed → second ≤ 0x9f) :
    charBytes (Char.ofNat (((first - 0xe0) * 64 + (second - 0x80)) * 64 + (third - 0x80))) =
      [first, second, third] := by
  rw [charBytes_ofNat (by omega), if_neg (by omega), if_neg (by omega), if_pos (by omega)]
  simp only [List.cons.injEq, and_true]
  omega

/-- The range of the second byte leaves out what is encoded in three bytes, and what is too
large. -/
theorem charBytes_four {first second third fourth : Nat} (hfirst : 0xf0 ≤ first ∧ first ≤ 0xf4)
    (hsecond : 0x80 ≤ second ∧ second ≤ 0xbf) (hthird : 0x80 ≤ third ∧ third ≤ 0xbf)
    (hfourth : 0x80 ≤ fourth ∧ fourth ≤ 0xbf) (hlow : first = 0xf0 → 0x90 ≤ second)
    (hhigh : first = 0xf4 → second ≤ 0x8f) :
    charBytes (Char.ofNat ((((first - 0xf0) * 64 + (second - 0x80)) * 64 + (third - 0x80)) * 64 +
      (fourth - 0x80))) = [first, second, third, fourth] := by
  rw [charBytes_ofNat (by omega), if_neg (by omega), if_neg (by omega), if_neg (by omega)]
  simp only [List.cons.injEq, and_true]
  omega

theorem lead?_cases {byte : Nat} {lead : Lead} (h : lead? byte = some lead) :
    (0xc2 ≤ byte ∧ byte ≤ 0xdf ∧ lead = ⟨byte - 0xc0, 0x80, 0xbf, 1⟩) ∨
      (0xe0 ≤ byte ∧ byte ≤ 0xef ∧ ∃ low high, lead = ⟨byte - 0xe0, low, high, 2⟩ ∧
        0x80 ≤ low ∧ high ≤ 0xbf ∧ (byte = 0xe0 → 0xa0 ≤ low) ∧ (byte = 0xed → high ≤ 0x9f)) ∨
      (0xf0 ≤ byte ∧ byte ≤ 0xf4 ∧ ∃ low high, lead = ⟨byte - 0xf0, low, high, 3⟩ ∧
        0x80 ≤ low ∧ high ≤ 0xbf ∧ (byte = 0xf0 → 0x90 ≤ low) ∧ (byte = 0xf4 → high ≤ 0x8f)) := by
  unfold lead? at h
  simp only [Bool.and_eq_true, decide_eq_true_eq, beq_iff_eq] at h
  split_ifs at h with htwo hthree hsurrogate hmiddle hfour hplane hlast <;>
    obtain rfl := Option.some.inj h
  · exact Or.inl ⟨htwo.1, htwo.2, rfl⟩
  · exact Or.inr (Or.inl ⟨by omega, by omega, 0xa0, 0xbf, by simp [hthree], by omega⟩)
  · exact Or.inr (Or.inl ⟨by omega, by omega, 0x80, 0x9f, by simp [hsurrogate], by omega⟩)
  · exact Or.inr (Or.inl ⟨by omega, by omega, 0x80, 0xbf, rfl, by omega⟩)
  · exact Or.inr (Or.inr ⟨by omega, by omega, 0x90, 0xbf, by simp [hfour], by omega⟩)
  · exact Or.inr (Or.inr ⟨by omega, by omega, 0x80, 0xbf, rfl, by omega⟩)
  · exact Or.inr (Or.inr ⟨by omega, by omega, 0x80, 0x8f, by simp [hlast], by omega⟩)

/-- A leading byte opens a character. -/
theorem opens_of_lead? {byte : Nat} {lead : Lead} (h : lead? byte = some lead) :
    Opens lead [byte] := by
  obtain ⟨hlow, hhigh, rfl⟩ | ⟨hlow, hhigh, low, high, rfl, hrange, hrange', hfirst, hlast⟩ |
    ⟨hlow, hhigh, low, high, rfl, hrange, hrange', hfirst, hlast⟩ := lead?_cases h
  · exact ⟨Nat.one_pos, fun second hsecond hsecond' ↦
      charBytes_two ⟨hlow, hhigh⟩ ⟨hsecond, hsecond'⟩⟩
  · refine ⟨Nat.two_pos, fun second hsecond hsecond' third hthird hthird' ↦ ?_⟩
    dsimp only at hsecond hsecond'
    exact charBytes_three ⟨hlow, hhigh⟩ (by omega) ⟨hthird, hthird'⟩ (by omega) (by omega)
  · refine ⟨Nat.succ_pos 2, fun second hsecond hsecond' third hthird hthird'
      fourth hfourth hfourth' ↦ ?_⟩
    dsimp only at hsecond hsecond'
    exact charBytes_four ⟨hlow, hhigh⟩ (by omega) ⟨hthird, hthird'⟩ ⟨hfourth, hfourth'⟩
      (by omega) (by omega)

/-- The pending bytes of a state: none at a boundary. -/
def Pends : State → List Nat → Prop
  | .boundary, pending => pending = []
  | .inside lead, pending => Opens lead pending

/-- The units are characters only if the bytes read so far are theirs, with the pending ones
behind. -/
def Accounts (read : List (Option Char) × State) (bytes : List Nat) : Prop :=
  (∀ unit ∈ read.1, unit.isSome = true) → ∃ (chars : List Char) (pending : List Nat),
    bytes = chars.flatMap charBytes ++ pending ∧ read.1 = (chars.map some).reverse ∧
      Pends read.2 pending

theorem accounts_of_none_mem {read : List (Option Char) × State} (h : none ∈ read.1)
    (bytes : List Nat) : Accounts read bytes :=
  fun hall ↦ absurd (hall none h) Bool.false_ne_true

theorem mem_begin {units : List (Option Char)} {unit : Option Char} (h : unit ∈ units)
    (byte : Nat) : unit ∈ (begin units byte).1 := by
  unfold begin
  split_ifs
  · exact List.mem_cons_of_mem _ h
  · split
    · exact List.mem_cons_of_mem _ h
    · exact h

theorem accounts_begin {units : List (Option Char)} {bytes : List Nat}
    (h : Accounts (units, .boundary) bytes) (byte : Nat) :
    Accounts (begin units byte) (bytes ++ [byte]) := by
  unfold begin
  split_ifs with hascii
  · intro hall
    obtain ⟨chars, pending, rfl, hunits, rfl⟩ := h (List.forall_mem_cons.mp hall).2
    refine ⟨chars ++ [Char.ofNat byte], [], ?_, ?_, rfl⟩
    · rw [List.flatMap_append, List.flatMap_singleton, charBytes_ofNat (by omega),
        if_pos (by omega), List.append_nil, List.append_nil]
    · simpa using hunits
  · split
    · exact accounts_of_none_mem List.mem_cons_self _
    · next lead hlead =>
      intro hall
      obtain ⟨chars, pending, rfl, hunits, rfl⟩ := h hall
      exact ⟨chars, [byte], by rw [List.append_nil], hunits, opens_of_lead? hlead⟩

theorem accounts_step {read : List (Option Char) × State} {bytes : List Nat}
    (h : Accounts read bytes) (byte : Nat) : Accounts (step read byte) (bytes ++ [byte]) := by
  obtain ⟨units, state⟩ := read
  cases state with
  | boundary => exact accounts_begin h byte
  | inside lead =>
    rw [step]
    split_ifs with hrange hlast
    · -- The last byte completes the character.
      intro hall
      obtain ⟨chars, pending, rfl, hunits, -, hcompletes⟩ := h (List.forall_mem_cons.mp hall).2
      obtain ⟨hlow, hhigh⟩ := Bool.and_eq_true_iff.mp hrange
      have hchar := hcompletes byte (of_decide_eq_true hlow) (of_decide_eq_true hhigh)
      rw [hlast] at hchar
      refine ⟨chars ++ [Char.ofNat (lead.bits * 64 + (byte - 0x80))], [], ?_, ?_, rfl⟩
      · rw [List.flatMap_append, List.flatMap_singleton, hchar, List.append_nil,
          List.append_assoc]
      · simpa using hunits
    · intro hall
      obtain ⟨chars, pending, rfl, hunits, hmore, hcompletes⟩ := h hall
      obtain ⟨hlow, hhigh⟩ := Bool.and_eq_true_iff.mp hrange
      have hrest := hcompletes byte (of_decide_eq_true hlow) (of_decide_eq_true hhigh)
      obtain ⟨more, hfollowing⟩ : ∃ more, lead.following = more + 2 :=
        ⟨lead.following - 2, by omega⟩
      rw [hfollowing] at hrest ⊢
      exact ⟨chars, pending ++ [byte], List.append_assoc _ _ _, hunits, Nat.succ_pos _, hrest⟩
    · exact accounts_of_none_mem (mem_begin List.mem_cons_self byte) _

theorem accounts_foldl (bytes : List Nat) {read : List (Option Char) × State} {before : List Nat}
    (h : Accounts read before) : Accounts (bytes.foldl step read) (before ++ bytes) := by
  induction bytes generalizing read before with
  | nil => rwa [List.append_nil]
  | cons byte bytes ih =>
    have hrest := ih (accounts_step h byte)
    rwa [List.append_assoc, List.singleton_append] at hrest

/-- Bytes that are read into characters alone are the bytes of these characters. -/
theorem exists_chars_of_units {bytes : ByteArray} (h : ∀ unit ∈ units bytes, unit.isSome = true) :
    ∃ chars : List Char, units bytes = chars.map some ∧
      bytes.data.toList.map UInt8.toNat = chars.flatMap charBytes := by
  have hread : units bytes =
      finish ((bytes.data.toList.map UInt8.toNat).foldl step ([], .boundary)) := by
    rw [units, foldl_eq, List.foldl_map]
  have hstart : Accounts ([], .boundary) [] := fun _ ↦ ⟨[], [], rfl, rfl, rfl⟩
  have haccounts := accounts_foldl (bytes.data.toList.map UInt8.toNat) hstart
  rw [hread] at h ⊢
  generalize (bytes.data.toList.map UInt8.toNat).foldl step ([], .boundary) = read at *
  obtain ⟨units, state⟩ := read
  cases state with
  | boundary =>
    obtain ⟨chars, pending, hbytes, rfl, rfl⟩ :=
      haccounts fun unit hunit ↦ h unit (List.mem_reverse.mpr hunit)
    exact ⟨chars, List.reverse_reverse _, by simpa using hbytes⟩
  | inside lead =>
    have hnone : none ∈ finish (units, .inside lead) := by simp [finish]
    exact absurd (h none hnone) Bool.false_ne_true

/-- Strict decoding accepts the bytes of texts and nothing else. -/
theorem decodeStrict_eq_some_iff {bytes : ByteArray} {text : String} :
    decodeStrict bytes = some text ↔ bytes = text.toUTF8 := by
  constructor
  · intro h
    unfold decodeStrict at h
    rw [Option.ite_none_right_eq_some, List.all_eq_true, Option.some.injEq] at h
    obtain ⟨hall, rfl⟩ := h
    obtain ⟨chars, hunits, hbytes⟩ := exists_chars_of_units hall
    have hchars : (units bytes).filterMap id = chars := by simp [hunits]
    rw [hchars]
    have hsame : bytes.data.toList = (String.ofList chars).toUTF8.data.toList := by
      refine List.map_inj_right (fun _ _ ↦ UInt8.toNat_inj.mp) |>.mp ?_
      rw [hbytes, toUTF8_toList, String.toList_ofList]
    exact ByteArray.ext (Array.toList_inj.mp hsame)
  · rintro rfl
    have hall : (text.toList.map some).all Option.isSome = true := by simp
    have hchars : (text.toList.map some).filterMap id = text.toList := by simp
    simp only [decodeStrict, units_toUTF8, hall, if_true, hchars, String.ofList_toList]

/-! ### Length -/

theorem size_toUTF8 (text : String) : text.toUTF8.size = text.utf8ByteSize := by
  rw [String.toUTF8_eq_toByteArray, String.size_toByteArray]

/-! ### The first invalid run -/

/-- A character that is completed leads to a boundary. -/
theorem snd_step_of_fst_eq {state : State} {byte : Nat} {c : Char}
    (h : (step ([], state) byte).1 = [some c]) : (step ([], state) byte).2 = .boundary := by
  have hbegin (units : List (Option Char)) (hunits : (begin units byte).1 ≠ units) :
      (begin units byte).2 = .boundary := by
    unfold begin at hunits ⊢
    split_ifs with hascii
    · rfl
    · rw [if_neg hascii] at hunits
      cases hlead : lead? byte with
      | none => rfl
      | some lead =>
        rw [hlead] at hunits
        exact absurd rfl hunits
  cases state with
  | boundary => exact hbegin [] (by rw [show (begin [] byte).1 = [some c] from h]; simp)
  | inside lead =>
    rw [step] at h ⊢
    split_ifs at h ⊢
    · rfl
    · exact hbegin [none] (by rw [h]; simp)

/-- The bytes in front of a flaw are those of characters. Where it is empty, nothing is behind
it. -/
theorem flawFrom_splits (front : List Char) (run : List UInt8) (state : State)
    (hpends : Pends state (run.map UInt8.toNat)) (bytes : List UInt8) :
    let flaw := flawFrom (front.flatMap charBytes).length run state bytes
    ∃ (chars : List Char) (rest : List UInt8),
      front.flatMap charBytes ++ (run ++ bytes).map UInt8.toNat =
        chars.flatMap charBytes ++ (flaw.run ++ rest).map UInt8.toNat ∧
      flaw.position = (chars.flatMap charBytes).length ∧ (flaw.run = [] → rest = []) := by
  induction bytes generalizing front run state with
  | nil => exact ⟨front, [], rfl, rfl, fun _ ↦ rfl⟩
  | cons byte bytes ih =>
    have haccounts : Accounts ([], state) (run.map UInt8.toNat) := fun _ ↦ ⟨[], _, rfl, rfl, hpends⟩
    have hnext := accounts_step haccounts byte.toNat
    unfold flawFrom
    split
    · next next hstep =>
      rw [hstep] at hnext
      obtain ⟨chars, pending, hpending, hnone, hopen⟩ := hnext (by simp)
      obtain rfl : chars = [] := by simpa using hnone
      obtain ⟨chars, rest, hbytes, hplace⟩ := ih front (run ++ [byte]) next
        (by rwa [List.map_append, List.map_singleton, hpending])
      exact ⟨chars, rest, by rw [← hbytes, List.append_assoc, List.singleton_append], hplace⟩
    · next c next hstep =>
      have hboundary : next = .boundary := by
        have h := snd_step_of_fst_eq (congrArg Prod.fst hstep)
        rwa [hstep] at h
      rw [hstep, hboundary] at hnext
      obtain ⟨chars, pending, hpending, hone, rfl⟩ := hnext (by simp)
      obtain rfl : chars = [c] := by simpa using hone.symm
      have hfront : (front ++ [c]).flatMap charBytes =
          front.flatMap charBytes ++ (run ++ [byte]).map UInt8.toNat := by
        rw [List.flatMap_append, List.map_append, List.map_singleton, hpending, List.append_nil]
      have hlength : ((front ++ [c]).flatMap charBytes).length =
          (front.flatMap charBytes).length + run.length + 1 := by
        simp [hfront, Nat.add_assoc]
      obtain ⟨chars, rest, hbytes, hplace⟩ := ih (front ++ [c]) [] .boundary rfl
      rw [hlength] at hbytes hplace
      refine ⟨chars, rest, ?_, hplace⟩
      rw [← hbytes, hfront]
      simp
    · split_ifs with hrun
      · rw [List.isEmpty_iff.mp hrun]
        exact ⟨front, bytes, rfl, rfl, fun h ↦ by cases h⟩
      · exact ⟨front, byte :: bytes, rfl, rfl, fun h ↦ absurd (List.isEmpty_iff.mpr h) hrun⟩

/-- Bytes that are no text have a flaw, and those in front of it are a text. -/
theorem exists_text_of_flaw {bytes : ByteArray} (h : decodeStrict bytes = none) :
    ∃ (text : String) (rest : List UInt8),
      bytes.data.toList = text.toUTF8.data.toList ++ ((flaw bytes).run ++ rest) ∧
        (flaw bytes).position = text.utf8ByteSize ∧ (flaw bytes).run ≠ [] := by
  obtain ⟨chars, rest, hbytes, hposition, hrest⟩ :=
    flawFrom_splits [] [] .boundary rfl bytes.data.toList
  have htext : (String.ofList chars).toUTF8.data.toList.map UInt8.toNat =
      chars.flatMap charBytes := by
    rw [toUTF8_toList, String.toList_ofList]
  have hsplit : bytes.data.toList =
      (String.ofList chars).toUTF8.data.toList ++ ((flaw bytes).run ++ rest) := by
    refine List.map_inj_right (fun _ _ ↦ UInt8.toNat_inj.mp) |>.mp ?_
    rw [List.map_append, htext]
    exact hbytes
  refine ⟨String.ofList chars, rest, hsplit, ?_, fun hempty ↦ ?_⟩
  · rw [← size_toUTF8, ByteArray.size, ← Array.length_toList,
      ← List.length_map UInt8.toNat, htext]
    exact hposition
  · rw [hempty, hrest hempty, List.append_nil, List.append_nil] at hsplit
    rw [decodeStrict_eq_some_iff.mpr (ByteArray.ext (Array.toList_inj.mp hsplit))] at h
    cases h

end DeskAssistant.Text.Utf8
