import DeskAssistant.Headless
import DeskAssistant.Program.Window

/-!
# Starting the program

The program reads its command line, sets its log up and checks the provider. It then answers the
question on the command line and ends, or opens its window. The exit status is two for a command
line or a provider that it refuses, and one when there is no reply.
-/

set_option autoImplicit false
set_option relaxedAutoImplicit false

namespace DeskAssistant

/-- What starting the program leads to: its end, with a status or a fault, or an open window. -/
inductive Started (σ : Type) where
  | ended (outcome : Except Fault Nat) (program : Program σ)
  | shown (window : Window σ)

namespace Program

variable {σ : Type}

/-- Answers the question of a command line. -/
def answer (program : Program σ) (arguments : Arguments) (prompt : String) (provider : Provider) :
    Except Fault Nat × Program σ :=
  match Fault.apart (ContextFiles.read program.host.files arguments.contextPlaces) with
  | .error fault => (.error fault, program)
  | .ok (.error error) =>
    (.ok 1, program.printError ("Unable to read context file: " ++ error.message ++ "\n"))
  | .ok (.ok texts) =>
    let (records, settings) := Settings.ofEnvironment program.environment
    let program := if prompt.isEmpty then program else program.log records
    let (report, desk, program) := Headless.run (agents settings) true prompt arguments.options
      provider (.fixed texts) program
    let program := program.log (Headless.records desk.history)
    (.ok report.status, (program.print report.output).printError report.errorOutput)

/-- Opens the window of a command line. -/
def openWindow (program : Program σ) (toolkit : Toolkit) (arguments : Arguments)
    (provider : Provider) (answers : List Bool) : Started σ :=
  match Window.opened toolkit arguments provider answers program with
  | (.ok window, _) => .shown window
  | (.error fault, program) => .ended (.error fault) program

/-- Starts the program with the words of a command line. -/
def start (program : Program σ) (toolkit : Toolkit) (words : List String)
    (answers : List Bool) : Started σ :=
  match Arguments.read words with
  | .error ending => .ended (.ok ending.status) (program.printError ending.errorOutput)
  | .ok arguments =>
    match program.configureLog arguments.ask.isAbsent with
    | .error fault => .ended (.error fault) program
    | .ok program =>
      match Completion.selectProvider arguments.providerText, arguments.question? with
      | .error failure, _ => .ended (.ok 2) (program.printError (failure.message ++ "\n"))
      | .ok provider, some prompt =>
        let (outcome, program) := program.answer arguments prompt provider
        .ended outcome program
      | .ok provider, none => program.openWindow toolkit arguments provider answers

end Program

end DeskAssistant
