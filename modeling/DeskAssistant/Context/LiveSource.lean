import DeskAssistant.Context.Snapshot
import DeskAssistant.Fault

/-!
# Live sources

A live source is asked for its fields one at a time, while the session it belongs to goes on: a
reader can fail, it can change the session, and what it returns need not be a text.
`Snapshot.captureLive` calls the reader of each field once, in the order of the fields, and takes
the snapshot of what was read. A reader that fails leaves its own field missing. A value that is no
text is shown as one, and where that fails no snapshot is taken and no further reader is called.
-/

set_option autoImplicit false
set_option relaxedAutoImplicit false

namespace DeskAssistant

/-- What a reader returns. Values that are no texts are of the type `ν`. -/
inductive Returned (ν : Type) where
  | nothing
  | text (value : String)
  | other (value : ν)
  deriving Repr

/-- A call into a session, which can fail. The session stays as the call has left it. -/
abbrev SessionCall (σ α : Type) := ExceptT Fault (StateM σ) α

structure LiveSource (σ ν : Type) where
  reader : ContextField → SessionCall σ (Returned ν)
  /-- The text of a value that is none, if it can be shown. -/
  shown : ν → Except Fault String

namespace LiveSource

variable {σ ν : Type}

/-- What was read, when the reader has returned. -/
def reading (source : LiveSource σ ν) : Returned ν → Except Fault Reading
  | .nothing => .ok .missing
  | .text value => .ok (.text value)
  | .other value => (source.shown value).map .text

/-- Calls the reader of a field. A failure of the reader goes no further, but one of showing what
it has returned does. -/
def read (source : LiveSource σ ν) (field : ContextField) : SessionCall σ Reading := do
  let returned ← tryCatch (some <$> source.reader field) fun _ ↦ pure none
  returned.elim (pure .failed) fun returned ↦ ExceptT.mk (pure (source.reading returned))

/-- Reads fields in order, up to the first whose reading ends in a fault: what was read, and the
fault. -/
def readAll (source : LiveSource σ ν) :
    List ContextField → StateM σ (List (ContextField × Reading) × Option Fault)
  | [] => pure ([], none)
  | field :: fields => do
    match ← (source.read field).run with
    | .error fault => pure ([], some fault)
    | .ok reading =>
      let (readings, fault) ← source.readAll fields
      pure ((field, reading) :: readings, fault)

/-- The source, with a list of the fields whose readers were called. -/
def logged (source : LiveSource σ ν) : LiveSource (σ × List ContextField) ν where
  reader field := fun (state, calls) ↦
    let (outcome, state) := source.reader field state
    (outcome, state, calls ++ [field])
  shown := source.shown

end LiveSource

/-- Takes a snapshot of a live source, with the records of taking it. -/
def Snapshot.captureLive {σ ν : Type} (source : LiveSource σ ν) :
    StateM σ (List Log.Record × Except Fault Snapshot) := do
  let (readings, fault) ← source.readAll ContextField.all
  let given : ContextSource := fun field ↦ (readings.lookup field).getD .missing
  match fault with
  | some fault => pure (warnings given, .error fault)
  | none =>
    let (records, snapshot) := capture given
    pure (records, .ok snapshot)

end DeskAssistant
