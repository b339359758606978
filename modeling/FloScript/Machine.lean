import FloScript.Scope

/-! The state of a run and the ways in which a step of it can end. -/
namespace FloScript

/-- Everything that changes during a run: the scopes, the text printed so far, the tasks that wait
for their one use, and the next label. -/
structure Machine where
  scopes : Scopes
  output : String
  tasks : Array (Option Value)
  labels : Nat
  deriving Inhabited

/-- Why a step ends without a value: a fault, a return on its way to its function, or the end of the
steps allowed. -/
inductive Signal where
  | fault (f : Fault)
  | returned (v : Value)
  | unfinished

/-- A step of a run: it gives a value or a signal, and a new state in both cases. -/
abbrev Run := EStateM Signal Machine

namespace Machine

/-- The number of the scope that holds the globals. -/
def globals : Nat := 0

/-- A machine whose globals are the given routines. -/
def withNatives (ns : List Native) : Machine :=
  ⟨#[⟨none, ns.map fun n => (n.name, .native n)⟩], "", #[], 0⟩

/-- A new machine. -/
def initial : Machine := withNatives Native.standard

end Machine

namespace Run

variable {α : Type}

def fail (f : Fault) : Run α := throw (.fault f)

/-- A step that may fail without touching the state. -/
def lift : Except Fault α → Run α
  | .ok a => pure a
  | .error e => fail e

/-- Runs a step and gives how it ended. -/
def capture (x : Run α) : Run (Except Signal α) := fun s =>
  match x s with
  | .ok a s => .ok (.ok a) s
  | .error e s => .ok (.error e) s

/-- Ends as a captured step did. -/
def release : Except Signal α → Run α
  | .ok a => pure a
  | .error e => throw e

/-- A label that no value has yet. -/
def label : Run Nat := modifyGet fun s => (s.labels, { s with labels := s.labels + 1 })

/-- A number as a value; one that is not a number gets a label. -/
def ofNumber : Number → Run Value
  | .int i => return .int i
  | .float x => do if x.isNaN then return .nan (← label) else return .float x

def write (s : String) : Run Unit := modify fun m => { m with output := m.output ++ s }

def scopes : Run Scopes := return (← get).scopes

def define (id : Nat) (name : String) (v : Value) : Run Unit :=
  modify fun m => { m with scopes := m.scopes.define id name v }

def lookup (id : Nat) (name : String) : Run Value := do lift ((← scopes).get id name)

def assign (id : Nat) (name : String) (v : Value) : Run Unit := do
  let ss ← lift ((← scopes).assign id name v)
  modify fun m => { m with scopes := ss }

def newScope (parent : Option Nat) : Run Nat := modifyGet fun m =>
  let (id, ss) := m.scopes.create parent
  (id, { m with scopes := ss })

/-- A scope for a call of a function made in the given scope. It is made below the globals, and
moved from there before anything uses it. -/
def callScope (closure : Nat) : Run Nat := modifyGet fun m =>
  let (outer, ss) := m.scopes.create (some Machine.globals)
  let (id, ss) := ss.create (some outer)
  (id, { m with scopes := ss.reparent id (some closure) })

end Run
end FloScript
