import FloScript.Evaluation
import FloScript.Grammar.Cursor
import FloScript.Scanner

/-! Sources run one after the other on one machine. -/
namespace FloScript

/-- The tree of a source. -/
def parse (source : String) : Except Fault Node := do programOf (← tokensOf source)

/-- Reads a source and runs it. -/
def runSource (source : String) : Run Value := do evaluate (← Run.lift (parse source))

/-- How a run ended, and the machine after it. -/
structure Outcome where
  ending : Except Signal Value
  machine : Machine

/-- Runs a step on a machine. -/
def Machine.exec (m : Machine) (x : Run Value) : Outcome :=
  match x m with
  | .ok v m => ⟨.ok v, m⟩
  | .error e m => ⟨.error e, m⟩

/-- The bindings that differ from those of a new machine: all but the routines under their own
names. -/
def Machine.variables (m : Machine) (routines : List Native) : Bindings :=
  (m.scopes.bindingsOf Machine.globals).filter fun (name, v) =>
    match v with
    | .native n => !(n.name = name && routines.contains n)
    | _ => true

end FloScript
