import FloScript.Command.Arguments
import FloScript.Session
import FloScript.Text.Case
import FloScript.Text.Utf8

/-! The commands of the command line. -/
namespace FloScript

/-- What is asked for. -/
inductive Command where
  | help
  | version
  | console
  | run (file : String)
  | build (file : String) (output : Option String)
  | noFile (usage : String)
  | unknown (name : String)
  deriving DecidableEq, Repr

/-- What a command leaves behind: an exit code, two texts, and the fault that nothing caught, if
there was one. -/
structure Report where
  exit : Nat
  output : String
  errors : String
  escaped : Option Fault
  deriving DecidableEq, Repr

namespace Command

/-- A text that is given and not empty. -/
def given (s : Option String) : Option String := s.filter (!·.isEmpty)

/-- The command that arguments ask for; case does not matter. -/
def ofArguments (a : Arguments) : Command :=
  match given a.command with
  | none => help
  | some name =>
    let name := Text.toSmall name
    if name = "run" then
      match given a.file with
      | some file => run file
      | none => noFile "flo run <file>"
    else if name = "build" then
      match given a.file with
      | some file => build file (given a.output)
      | none => noFile "flo build <file> [-o output]"
    else if name = "repl" then console
    else if ["help", "--help", "-h"].contains name then help
    else if ["version", "--version", "-v"].contains name then version
    else unknown name

def helpText : String :=
  "\nFlo Programming Language - CLI Tool\n\nUSAGE:\n    flo <command> [options]\n\nCOMMANDS:\n" ++
  "    run <file>              Run a Flo program\n" ++
  "    build <file>            Build a Flo program (compile)\n" ++
  "    repl                    Start interactive REPL\n" ++
  "    help                    Show this help message\n" ++
  "    version                 Show version information\n\nEXAMPLES:\n" ++
  "    flo run hello.flo       # Run hello.flo\n" ++
  "    flo build app.flo       # Build app.flo\n" ++
  "    flo repl                # Start REPL\n\n" ++
  "For more information, visit: https://github.com/TechEdMN/Flo-Lang\n\n"

def versionText : String :=
  "Flo Programming Language\nVersion 0.1.0\nCopyright (c) 2025 Flo Language Team\n"

def buildText (file : String) (output : Option String) : String :=
  "Build functionality coming soon!\nWould compile: " ++ file ++ "\n" ++
    match output with
    | some o => "Output to: " ++ o ++ "\n"
    | none => ""

/-- Why a file cannot be read. -/
inductive FileFault where
  | missing
  | directory
  | notDirectory
  | nullInName
  | malformed (m : Text.Utf8.Malformed)
  | other (text : String)

/-- What is printed for a file that cannot be read. -/
def FileFault.report (file : String) : FileFault → String
  | missing => "Error: File not found: " ++ file ++ "\n"
  | directory => "Runtime Error: [Errno 21] Is a directory: " ++ Text.quote file ++ "\n"
  | notDirectory => "Runtime Error: [Errno 20] Not a directory: " ++ Text.quote file ++ "\n"
  | nullInName => "Runtime Error: embedded null byte\n"
  | malformed m => "Runtime Error: " ++ m.message ++ "\n"
  | other text => "Runtime Error: " ++ text ++ "\n"

/-- The source in the bytes of a file. -/
def sourceOf (bs : List UInt8) : Except FileFault String :=
  match Text.Utf8.decode bs with
  | .ok cs => .ok (String.ofList (Text.Utf8.plainLines false cs))
  | .error m => .error (.malformed m)

/-- Whether a fault means that the text is no program. -/
def isSourceFault : Fault → Bool
  | .lexical .. | .grammatical .. => true
  | _ => false

/-- Reports a program that ended without a value. A returned value is reported like a fault; where
it has no text, the fault of writing it is raised in the course of the report, and nothing catches
that. -/
def failure (m : Machine) : Signal → Report
  | .fault e =>
    ⟨1, m.output,
      (if isSourceFault e then "Syntax Error: " else "Runtime Error: ") ++ e.message ++ "\n", none⟩
  | .returned v =>
    match v.display m.scopes with
    | .ok s => ⟨1, m.output, "Runtime Error: " ++ s ++ "\n", none⟩
    | .error e => ⟨1, m.output, "", some e⟩
  | .unfinished => ⟨1, m.output, "", none⟩

/-- Runs a program. Its value is not shown. -/
def runProgram (source : String) : Report :=
  let o := Machine.initial.exec (runSource source)
  match o.ending with
  | .ok _ => ⟨0, o.machine.output, "", none⟩
  | .error e => failure o.machine e

/-- Runs the program in a file, given what reading the file gave. -/
def runFile (file : String) (content : Except FileFault (List UInt8)) : Report :=
  match content >>= sourceOf with
  | .ok source => runProgram source
  | .error e => ⟨1, "", e.report file, none⟩

/-- The report of a command that reads nothing. -/
def report : Command → Report
  | help => ⟨0, helpText, "", none⟩
  | version => ⟨0, versionText, "", none⟩
  | build file output => ⟨0, buildText file output, "", none⟩
  | noFile usage => ⟨1, "", "Error: No file specified\nUsage: " ++ usage ++ "\n", none⟩
  | unknown name =>
    ⟨1, "", "Error: Unknown command '" ++ name ++ "'\nRun 'flo help' for usage information\n", none⟩
  | console | run _ => ⟨0, "", "", none⟩

end Command

/-- What stands under a name in a folder. -/
inductive Entry where
  | directory
  | file (bytes : List UInt8)

/-- The entries of a folder by name. -/
abbrev Folder := List (String × Entry)

namespace Folder

/-- Looks for what a path leads to, step by step. The folders in the folder are empty, and nothing
is known of what is around it. -/
def find (f : Folder) : List String → Except Command.FileFault Entry
  | [] | [".."] => .ok .directory
  | [name] =>
    match f.lookup name with
    | some e => .ok e
    | none => .error .missing
  | name :: _ =>
    match f.lookup name with
    | some (.file _) => .error .notDirectory
    | _ => .error .missing

/-- The bytes of the file at a path. -/
def content (f : Folder) (path : String) : Except Command.FileFault (List UInt8) := do
  if path.toList.contains (Char.ofNat 0) then throw .nullInName
  let steps := (path.splitOn "/").filter fun s => s ≠ "."
  let folder := steps.getLast?.all String.isEmpty
  let names := steps.filter (!·.isEmpty)
  let entries : Folder := if path.toList.head? = some '/' then [] else f
  match ← entries.find names with
  | .directory => throw .directory
  | .file bytes => if folder then throw .notDirectory else return bytes

end Folder
end FloScript
