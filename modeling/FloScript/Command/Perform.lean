import FloScript.Command
import FloScript.Console

/-! The whole command line as a function of its arguments, the files at hand and the lines to be
read. -/
namespace FloScript

/-- What a call of the program leaves behind: its exit code, what it printed, cut where a line was
read, its errors, and the fault that nothing caught, if there was one. -/
structure Transcript where
  exit : Nat
  parts : List String
  errors : String
  escaped : Option Fault
  deriving DecidableEq, Repr

def Report.transcript (r : Report) : Transcript := ⟨r.exit, [r.output], r.errors, r.escaped⟩

/-- Runs a console on lines. -/
def Console.perform (lines : List Line) : Transcript :=
  let (parts, escaped) := Console.new.transcript lines
  ⟨if escaped.isSome then 1 else 0, Console.banner :: parts, "", escaped⟩

/-- Does what the arguments ask for; `program` is the name of the program in messages. -/
def Command.perform (program : String) (folder : Folder) (lines : List Line) (args : List String) :
    Transcript :=
  match Arguments.read args with
  | .error r => ⟨2, [""], r.report program, none⟩
  | .ok a =>
    match Command.ofArguments a with
    | .console => Console.perform lines
    | .run file => (Command.runFile file (folder.content file)).transcript
    | c => c.report.transcript

end FloScript
