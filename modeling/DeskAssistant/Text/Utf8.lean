import DeskAssistant.Text.Quoted

/-!
# Decoding UTF-8

Bytes are read into units. A unit is a character, or `none` for a maximal run of bytes that begins
a character without completing one. `decodeStrict` accepts only byte strings without such runs;
`decodeLossy` writes U+FFFD for each of them, as the Unicode standard recommends. `flaw` is the
first of them, with its place and with what is wrong.
-/

set_option autoImplicit false
set_option relaxedAutoImplicit false

namespace DeskAssistant.Text.Utf8

/-- What a leading byte announces: the bits it carries, the range its first continuation byte has
to lie in, and the number of continuation bytes. The ranges leave out overlong forms, surrogates
and values above U+10FFFF. -/
structure Lead where
  bits : Nat
  low : Nat
  high : Nat
  following : Nat

/-- The lead read from a byte above 0x7F; `none` for a byte that begins no character. -/
def lead? (byte : Nat) : Option Lead :=
  if 0xc2 ≤ byte && byte ≤ 0xdf then some ⟨byte - 0xc0, 0x80, 0xbf, 1⟩
  else if byte == 0xe0 then some ⟨0, 0xa0, 0xbf, 2⟩
  else if byte == 0xed then some ⟨0x0d, 0x80, 0x9f, 2⟩
  else if 0xe1 ≤ byte && byte ≤ 0xef then some ⟨byte - 0xe0, 0x80, 0xbf, 2⟩
  else if byte == 0xf0 then some ⟨0, 0x90, 0xbf, 3⟩
  else if 0xf1 ≤ byte && byte ≤ 0xf3 then some ⟨byte - 0xf0, 0x80, 0xbf, 3⟩
  else if byte == 0xf4 then some ⟨4, 0x80, 0x8f, 3⟩
  else none

/-- A decoder between two bytes: it is at a boundary, or inside a character that needs
`following` more bytes, of which the next lies between `low` and `high`. -/
inductive State where
  | boundary
  | inside (lead : Lead)

/-- Reads a byte at a boundary, in front of the units read so far, which stand backwards. -/
def begin (units : List (Option Char)) (byte : Nat) : List (Option Char) × State :=
  if byte < 0x80 then (some (Char.ofNat byte) :: units, .boundary)
  else
    match lead? byte with
    | none => (none :: units, .boundary)
    | some lead => (units, .inside lead)

/-- Reads one byte. A byte that does not continue the open character ends it as an invalid run and
is read again at the boundary. -/
def step : List (Option Char) × State → Nat → List (Option Char) × State
  | (units, .boundary), byte => begin units byte
  | (units, .inside lead), byte =>
    if lead.low ≤ byte && byte ≤ lead.high then
      let bits := lead.bits * 64 + (byte - 0x80)
      if lead.following = 1 then (some (Char.ofNat bits) :: units, .boundary)
      else (units, .inside ⟨bits, 0x80, 0xbf, lead.following - 1⟩)
    else begin (none :: units) byte

/-- The units once the input has ended: an open character is an invalid run. -/
def finish : List (Option Char) × State → List (Option Char)
  | (units, .boundary) => units.reverse
  | (units, .inside _) => (none :: units).reverse

/-- The units of a byte string. -/
def units (bytes : ByteArray) : List (Option Char) :=
  finish (bytes.foldl (fun state byte ↦ step state byte.toNat) ([], .boundary))

/-- The text of a byte string, with U+FFFD for each invalid run. -/
def decodeLossy (bytes : ByteArray) : String :=
  String.ofList ((units bytes).map (fun unit ↦ unit.getD (Char.ofNat 0xfffd)))

/-- The text of a byte string without invalid runs. -/
def decodeStrict (bytes : ByteArray) : Option String :=
  let read := units bytes
  if read.all Option.isSome then some (String.ofList (read.filterMap id)) else none

/-! ### The first invalid run -/

/-- What is wrong with an invalid run: its byte begins no character, or the byte behind it does not
go on with its character, or there is none. -/
inductive Problem where
  | startByte
  | continuationByte
  | endOfData
  deriving Repr, DecidableEq

def Problem.text : Problem → String
  | startByte => "invalid start byte"
  | continuationByte => "invalid continuation byte"
  | endOfData => "unexpected end of data"

/-- An invalid run of bytes and the number of bytes in front of it. -/
structure Flaw where
  position : Nat
  run : List UInt8
  problem : Problem
  deriving Repr, DecidableEq

/-- The bytes of the flaw as its message names them. -/
def Flaw.place (flaw : Flaw) : String :=
  match flaw.run with
  | [byte] =>
    "byte 0x" ++ String.ofList (hexDigits 2 byte.toNat) ++ " in position " ++
      toString flaw.position
  | _ =>
    "bytes in position " ++ toString flaw.position ++ "-" ++
      toString (flaw.position + flaw.run.length - 1)

def Flaw.message (flaw : Flaw) : String :=
  "'utf-8' codec can't decode " ++ flaw.place ++ ": " ++ flaw.problem.text

/-- The flaw of bytes in front of which `position` bytes make whole characters and those in `run`
open the next one. Without an invalid run it is empty and at the end. -/
def flawFrom (position : Nat) (run : List UInt8) (state : State) : List UInt8 → Flaw
  | [] => ⟨position, run, .endOfData⟩
  | byte :: rest =>
    match step ([], state) byte.toNat with
    | ([], state) => flawFrom position (run ++ [byte]) state rest
    | ([some _], _) => flawFrom (position + run.length + 1) [] .boundary rest
    | _ =>
      if run.isEmpty then ⟨position, [byte], .startByte⟩ else ⟨position, run, .continuationByte⟩

/-- The first invalid run of a byte string. -/
def flaw (bytes : ByteArray) : Flaw := flawFrom 0 [] .boundary bytes.data.toList

end DeskAssistant.Text.Utf8
