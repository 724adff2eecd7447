import DeskAssistant.Json.Token

/-!
# Reading JSON

The tokens of a document are read one after the other. A reader keeps the arrays and objects that
are open, the innermost first, and what may come next. Of two members with the same key the last
one counts. `Json.read` gives the value of a document or says why there is none.
-/

set_option autoImplicit false
set_option relaxedAutoImplicit false

namespace DeskAssistant.Json

/-- Why a document has no value. -/
inductive Refusal where
  | malformed
  /-- A whole number has too many digits. -/
  | digits (fault : Text.TooManyDigits)
  /-- An object or an array lies too deep. -/
  | tooDeep (isObject : Bool)
  deriving Repr, DecidableEq

namespace Reader

/-- An array or object that is open: its items so far, backwards, its members so far, or its
members and the key whose value is to come. -/
inductive Frame where
  | array (items : List Value)
  | object (members : Members)
  | member (key : List Text.CodeUnit) (members : Members)

/-- What may come next. -/
inductive Expected where
  | value
  | itemOrEnd
  | key
  | keyOrEnd
  | colon
  | separator

inductive State where
  | reading (expected : Expected) (frames : List Frame)
  | finished (value : Value)
  | refused (refusal : Refusal)

/-- Puts a value that was read where it belongs. -/
def place (value : Value) : List Frame → State
  | [] => .finished value
  | .array items :: frames => .reading .separator (.array (value :: items) :: frames)
  | .member key members :: frames =>
    .reading .separator (.object (putMember key value members) :: frames)
  | .object _ :: _ => .refused .malformed

/-- How many arrays and objects may be open at a time. -/
def levelLimit : Nat := 989

/-- Opens an array or an object. -/
def openFrame (isObject : Bool) (frames : List Frame) : State :=
  if levelLimit ≤ frames.length then .refused (.tooDeep isObject)
  else if isObject then .reading .keyOrEnd (.object [] :: frames)
  else .reading .itemOrEnd (.array [] :: frames)

/-- Reads the token with which a value begins. -/
def beginValue (frames : List Frame) : Token → State
  | .literal value => place value frames
  | .text units => place (.text units) frames
  | .whole negative digits =>
    match Text.signed negative digits with
    | .ok value => place (.integer value) frames
    | .error fault => .refused (.digits fault)
  | .arrayOpen => openFrame false frames
  | .objectOpen => openFrame true frames
  | _ => .refused .malformed

/-- Reads one token. -/
def step : State → Token → State
  | .reading .value frames, token => beginValue frames token
  | .reading .itemOrEnd (.array items :: frames), .arrayClose => place (.array items.reverse) frames
  | .reading .itemOrEnd frames, token => beginValue frames token
  | .reading .keyOrEnd (.object members :: frames), .objectClose => place (.object members) frames
  | .reading .keyOrEnd (.object members :: frames), .text key =>
    .reading .colon (.member key members :: frames)
  | .reading .key (.object members :: frames), .text key =>
    .reading .colon (.member key members :: frames)
  | .reading .colon frames, .colon => .reading .value frames
  | .reading .separator (.array items :: frames), .comma =>
    .reading .value (.array items :: frames)
  | .reading .separator (.array items :: frames), .arrayClose => place (.array items.reverse) frames
  | .reading .separator (.object members :: frames), .comma =>
    .reading .key (.object members :: frames)
  | .reading .separator (.object members :: frames), .objectClose => place (.object members) frames
  | .refused refusal, _ => .refused refusal
  | _, _ => .refused .malformed

def State.result : State → Except Refusal Value
  | finished value => .ok value
  | refused refusal => .error refusal
  | reading _ _ => .error .malformed

end Reader

/-- The value of a document. -/
def read (document : String) : Except Refusal Value :=
  ((Scan.tokens document.toList).foldl Reader.step (.reading .value [])).result

end DeskAssistant.Json
