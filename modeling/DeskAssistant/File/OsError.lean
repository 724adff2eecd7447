import DeskAssistant.Text.Quoted

/-!
# Errors of the operating system

An error carries its number and description, with the path it is about when there is one, or a
message alone. `OsError.message` shows all of it and `OsError.reason` the description.
-/

set_option autoImplicit false
set_option relaxedAutoImplicit false

namespace DeskAssistant.File

inductive OsError where
  | numbered (number : Int) (description : String) (path : Option String)
  | described (message : String)
  deriving Repr, DecidableEq

namespace OsError

def message : OsError → String
  | numbered number description none => "[Errno " ++ toString number ++ "] " ++ description
  | numbered number description (some path) =>
    "[Errno " ++ toString number ++ "] " ++ description ++ ": " ++ Text.quoted path
  | described message => message

/-- The description of the error alone. -/
def description? : OsError → Option String
  | numbered _ description _ => some description
  | described _ => none

/-- The description, or the whole message when the description is missing or empty. -/
def reason (fault : OsError) : String :=
  match fault.description? with
  | some description => if description.isEmpty then fault.message else description
  | none => fault.message

def notFound (path : Option String) : OsError := numbered 2 "No such file or directory" path

def alreadyExists (path : Option String) : OsError := numbered 17 "File exists" path

def notDirectory (path : Option String) : OsError := numbered 20 "Not a directory" path

def isDirectory (path : Option String) : OsError := numbered 21 "Is a directory" path

def nameTooLong (path : Option String) : OsError := numbered 36 "File name too long" path

def busy (path : Option String) : OsError := numbered 16 "Device or resource busy" path

end OsError

end DeskAssistant.File
