import DeskAssistant.Fault
import DeskAssistant.Completion.Failure

/-!
# Results of a completion

A result carries a reply or an error, and exactly one of the two is a text that is not empty.
`Result.of?` builds a result from its parts and refuses the other combinations.
-/

set_option autoImplicit false
set_option relaxedAutoImplicit false

namespace DeskAssistant.Completion

/-- A text is present and not empty. -/
def hasText (text : Option String) : Bool := !(text.getD "").isEmpty

structure Result where
  reply : Option String
  error : Option String
  errorKind : Option String
  exactlyOne : hasText reply ≠ hasText error
  deriving DecidableEq

namespace Result

/-- The result with these parts. -/
def of? (reply error errorKind : Option String) : Except Fault Result :=
  if h : hasText reply ≠ hasText error then .ok ⟨reply, error, errorKind, h⟩
  else if hasText reply then .error .replyAndError
  else .error .noReplyNoError

/-- The result counts as a success: no error is present, not even an empty one. -/
def succeeded (result : Result) : Bool := result.error.isNone

/-- The error shown for a failure without a message. -/
def unnamedError : String := "LLM call failed"

/-- A message, or the error shown in place of a missing or empty one. -/
def messageOr (message : Option String) : String :=
  if hasText message then message.getD "" else unnamedError

theorem hasText_messageOr (message : Option String) :
    hasText (some (messageOr message)) = true := by
  unfold messageOr
  split
  · assumption
  · rfl

/-- The result of a failure of a kind with a message. -/
def failure (kind : FailureKind) (message : String) : Result where
  reply := none
  error := some (messageOr (some message))
  errorKind := some kind.name
  exactlyOne := by rw [hasText_messageOr]; decide

def ofFailure (failed : Failure) : Result := failure failed.kind failed.message

/-- The result of a successful completion. -/
def success (reply : String) : Except Fault Result := of? (some reply) none none

end Result

end DeskAssistant.Completion
