import FloScript.Command
import FloScript.Console

/-! The command line. -/
namespace FloScript.Main

/-- Reads a file. -/
def readFile (file : String) : IO (Except Command.FileFault (List UInt8)) := do
  try
    return .ok (← IO.FS.readBinFile file).toList
  catch e =>
    match e with
    | .noFileOrDirectory .. => return .error .missing
    | .inappropriateType .. => return .error .directory
    | e => return .error (.other (toString e))

/-- Reads a line without the character that ends it. -/
def readLine : IO Line := do
  let line ← (← IO.getStdin).getLine
  if line.isEmpty then return .ended
  return .text (String.ofList (line.toList.reverse.dropWhile (· = '\n')).reverse)

/-- Prints a text at once. -/
def put (s : String) : IO Unit := do
  let out ← IO.getStdout
  out.putStr s
  out.flush

/-- Ends by a fault that nothing caught. -/
def escape (e : Fault) : IO UInt32 := do
  (← IO.getStderr).putStr (e.message ++ "\n")
  return 1

/-- Answers lines until the console ends. -/
partial def converse (c : Console) : IO UInt32 := do
  let r := c.respond (← readLine)
  put r.output
  match r.next with
  | .waits c => converse c
  | .ends => return 0
  | .breaks e => escape e
  | .hangs => return 1

/-- Prints a report. -/
def deliver (r : Report) : IO UInt32 := do
  put r.output
  (← IO.getStderr).putStr r.errors
  match r.escaped with
  | some e => escape e
  | none => return r.exit.toUInt32

/-- Does what the arguments ask for. -/
def perform (args : List String) : IO UInt32 := do
  match Arguments.read args with
  | .error r => deliver ⟨2, "", r.report "flo", none⟩
  | .ok a =>
    match Command.ofArguments a with
    | .console =>
      put Console.banner
      converse Console.new
    | .run file => deliver (Command.runFile file (← readFile file))
    | c => deliver c.report

end FloScript.Main

def main (args : List String) : IO UInt32 := FloScript.Main.perform args
