import FloScript.Session
import FloScript.Text.Blank

/-! The console: lines are read, run on one machine, and answered. -/
namespace FloScript

/-- What reading a line gives. -/
inductive Line where
  | text (s : String)
  | interrupt
  | ended

/-- A console that waits for a line. -/
structure Console where
  machine : Machine

namespace Console

def new : Console := ⟨Machine.initial⟩

def prompt : String := "flo> "

/-- What is printed before the first line is read. -/
def banner : String :=
  "Flo Programming Language REPL\nVersion 0.1.0\nType 'exit' or press Ctrl+D to quit\n\n" ++ prompt

/-- What a console does after a line: it waits for the next one, ends, or breaks down by a fault
that nothing catches. It hangs if the line is never run to an end. -/
inductive Next where
  | waits (c : Console)
  | ends
  | breaks (e : Fault)
  | hangs

/-- What is printed after a line, and what comes then. -/
structure Reply where
  output : String
  next : Next

/-- Prints a text and waits for the next line. -/
def goOn (c : Console) (output : String) : Reply := ⟨output ++ prompt, .waits c⟩

/-- The text of an error. -/
def errorText (message : String) : String := "Error: " ++ message ++ "\n"

/-- Answers with how a run ended: a value is shown unless it is null. The text of a fault is always
known, but that of a returned value need not be: then the fault of writing it is raised where errors
are reported. -/
def answer (o : Outcome) : Reply :=
  let m := o.machine
  let c : Console := ⟨{ m with output := "" }⟩
  let show? (text : Except Fault String) : String :=
    match text with
    | .ok s => s ++ "\n"
    | .error e => errorText e.message
  match o.ending with
  | .ok .null => goOn c m.output
  | .ok v => goOn c (m.output ++ show? (v.display m.scopes))
  | .error (.fault e) => goOn c (m.output ++ errorText e.message)
  | .error (.returned v) =>
    match v.display m.scopes with
    | .ok s => goOn c (m.output ++ errorText s)
    | .error e => ⟨m.output, .breaks e⟩
  | .error .unfinished => ⟨m.output, .hangs⟩

/-- Answers a line. -/
def respond (c : Console) : Line → Reply
  | .ended => ⟨"\nGoodbye!\n", .ends⟩
  | .interrupt => c.goOn "\nKeyboardInterrupt\n"
  | .text s =>
    let words := Text.trim s
    if words = "exit" || words = "quit" then ⟨"", .ends⟩
    else if words.isEmpty then c.goOn ""
    else answer (c.machine.exec (runSource s))

/-- Answers lines until the console ends, and gives what is printed after each; the end of the lines
is the end of the input. The fault is the one by which the console broke down. -/
def transcript (c : Console) : List Line → List String × Option Fault
  | [] => finish (c.respond .ended)
  | line :: lines =>
    let r := c.respond line
    match r.next with
    | .waits c =>
      let (rest, escaped) := transcript c lines
      (r.output :: rest, escaped)
    | _ => finish r
where
  finish (r : Reply) : List String × Option Fault :=
    match r.next with
    | .breaks e => ([r.output], some e)
    | _ => ([r.output], none)

end Console
end FloScript
