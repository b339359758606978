import FloScript.Json.Writer
import FloScript.Route
import FloScript.Session

/-! A server that answers requests by the values that handlers give. -/
namespace FloScript

/-- What the server does, seen from outside. -/
inductive Call where
  | bind (host : String) (port : Int)
  | serve
  | shutdown
  | status (code : Value)
  | header (name text : String)
  | endHeaders
  | body (text : String)

/-- What answers a request. All that the server sees of it is how its call with the parameters of
the path ended. -/
structure Handler where
  call : Route.Parameters → Outcome

/-- Whether a fault can be answered; the others end the program. -/
def Fault.isOrdinary : Fault → Bool
  | raised kind _ => !(["KeyboardInterrupt", "SystemExit", "GeneratorExit"].contains kind)
  | _ => true

namespace Server

/-- The calls before a body of a kind. -/
def opening (code : Int) (kind : String) : List Call :=
  [.status (.int code), .header "Content-Type" kind, .endHeaders]

/-- The calls of a body whose text may fail after they have begun. -/
def withBody (start : List Call) (text : Except Fault String) : List Call × Option Fault :=
  match text with
  | .ok s => (start ++ [.body s], none)
  | .error e => (start, some e)

/-- Answers with a value: a dict as JSON, a text as it is, an integer as a status, anything else as
its text. -/
def answerValue (ss : Scopes) (v : Value) : List Call × Option Fault :=
  match v with
  | .dict _ | .bindings _ => withBody (opening 200 "application/json") (Json.write ss v .null)
  | .text s => withBody (opening 200 "text/plain") (.ok s)
  | .int _ | .bool _ => ([.status v, .endHeaders], none)
  | v => withBody (opening 200 "text/plain") (v.display ss)

/-- Answers with an error. -/
def answerError (message : Except Fault String) : List Call × Option Fault :=
  withBody (opening 500 "application/json") do
    Json.write #[] (.dict [(.text "error", .text (← message))]) .null

/-- Adds the answer to an error to the calls that were made before it. -/
def recover (before : List Call) (message : Except Fault String) : List Call × Option Fault :=
  let (calls, escaped) := answerError message
  (before ++ calls, escaped)

/-- Answers with how a handler ended. An ordinary fault is answered, also one that comes up while
the value is written; the calls made before it stay. -/
def answer (o : Outcome) : List Call × Option Fault :=
  let ss := o.machine.scopes
  match o.ending with
  | .ok v =>
    match answerValue ss v with
    | (calls, none) => (calls, none)
    | (calls, some e) => recover calls (.ok e.message)
  | .error (.fault e) => if e.isOrdinary then recover [] (.ok e.message) else ([], some e)
  | .error (.returned v) => recover [] (v.display ss)
  | .error .unfinished => ([], none)

/-- What a request gave: the calls, the text printed, and a fault that was not answered. -/
structure Exchange where
  calls : List Call
  output : String
  escaped : Option Fault

/-- Answers a request from a table of handlers. -/
def handle (t : Route.Table Handler) (method path : String) : Exchange :=
  match t.find method path with
  | .error e => ⟨[], "", some e⟩
  | .ok none => ⟨[.status (.int 404), .endHeaders], "", none⟩
  | .ok (some (h, ps)) =>
    let o := h.call ps
    let (calls, escaped) := answer o
    ⟨calls, o.machine.output, escaped⟩

/-- The line that is printed for a message: a text with its directives replaced. -/
def logLine (format : String) (args : List Value) : Except Fault String := do
  return "[HTTP] " ++ (← Percent.format #[] format (.tuple args)) ++ "\n"

end Server

/-- An application: its routes, and whether a server answers from them. -/
structure Application where
  routes : Route.Table Handler
  listening : Bool

namespace Application

def new : Application := ⟨[], false⟩

def register (template method : String) (h : Handler) (a : Application) : Application :=
  { a with routes := a.routes.register template method h }

/-- Starts the server on a port; an interrupt stops it. Routes registered later are answered too. -/
def listen (port : Int) (interrupt : Bool) (a : Application) : Application × Server.Exchange :=
  let line := "Flo server listening on port " ++ toString port ++ "\n"
  let started := [Call.bind "0.0.0.0" port, .serve]
  let e : Server.Exchange :=
    if interrupt then ⟨started ++ [.shutdown], line ++ "\nServer stopped\n", none⟩
      else ⟨started, line, none⟩
  ({ a with listening := true }, e)

/-- The routes that requests see: none before the server is started. -/
def visible (a : Application) : Route.Table Handler := if a.listening then a.routes else []

def request (method path : String) (a : Application) : Server.Exchange :=
  Server.handle a.visible method path

end Application
end FloScript
