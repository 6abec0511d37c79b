import CaptureFlow.Command.Execution
/-! # The program

What a run of the program leaves besides the database: its exit code and what it prints.  A banner
stands above the output of every command that was understood, unless output for programs or quiet
output is wanted. -/

namespace CaptureFlow.Command

def version : String := "0.3.2"

def versionLine : String := s!"stagegate {version}\n"

def banner : String := s!"\n  stagegate v{version}\n  stage-ordered capture flow\n\n"

/-- An exit code and what was printed. -/
structure Exit where
  code : UInt8
  output : String
deriving DecidableEq, Repr

def helpPage : String :=
  "Stage-ordered capture flow tools\n\nUsage: stagegate [OPTIONS] <COMMAND>\n\nCommands:\n" ++
    "  transform  Compute the preview transform\n" ++
    "  crop       Compute the capture crop\n" ++
    "  rotation   Compute the camera display rotation\n" ++
    "  prefs      Inspect or edit stored preferences\n" ++
    "  simulate   Replay a simulation script\n"

/-- The end of a run whose arguments are not carried out. -/
def UsageFault.exit : UsageFault → Exit
  | .help => ⟨0, helpPage⟩
  | .version => ⟨0, versionLine⟩
  | _ => ⟨2, ""⟩

/-- The end of a run that has come to an answer or to a failure. -/
def Invocation.exit (invocation : Invocation) (answer : Except Failure Answer) : Exit :=
  let above := if invocation.quiet || invocation.json then "" else banner
  ⟨if answer.isOk then 0 else 1, above ++ invocation.printed answer⟩

end CaptureFlow.Command
