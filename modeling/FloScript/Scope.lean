import FloScript.Fault
import FloScript.Value

/-! Scopes: names bound to values, each scope with an optional parent in which names are looked up
when it does not bind them itself. Scopes are numbered in the order of their creation. -/
namespace FloScript

/-- Names with values, in the order in which the names were first bound. -/
abbrev Bindings := List (String × Value)

namespace Bindings

/-- Binds a name: a bound name keeps its place, a new one comes last. -/
def put (name : String) (v : Value) : Bindings → Bindings
  | [] => [(name, v)]
  | (n, w) :: bs => if n = name then (n, v) :: bs else (n, w) :: put name v bs

/-- Whether a name is bound. -/
def binds (name : String) (bs : Bindings) : Bool := bs.any fun b => b.1 = name

end Bindings

structure Scope where
  parent : Option Nat
  bindings : Bindings
  deriving Inhabited

/-- All scopes of a run, by number. -/
abbrev Scopes := Array Scope

namespace Scopes

/-- A new scope, and its number. -/
def create (parent : Option Nat) (ss : Scopes) : Nat × Scopes := (ss.size, ss.push ⟨parent, []⟩)

/-- The names bound by a scope itself. -/
def bindingsOf (ss : Scopes) (id : Nat) : Bindings := (ss[id]?.map (·.bindings)).getD []

/-- Binds a name in a scope itself. -/
def define (id : Nat) (name : String) (v : Value) (ss : Scopes) : Scopes :=
  ss.modify id fun s => { s with bindings := s.bindings.put name v }

/-- Gives a scope another parent. -/
def reparent (id : Nat) (parent : Option Nat) (ss : Scopes) : Scopes :=
  ss.modify id fun s => { s with parent := parent }

/-- Follows the parents from a scope to the first that binds a name, or to the last one; tells
which. A chain longer than `n` is not followed to its end. -/
def locate (ss : Scopes) (name : String) : Nat → Nat → Except Fault (Nat × Bool)
  | 0, _ => .error .depth
  | n + 1, id =>
    match ss[id]? with
    | none => .ok (id, false)
    | some s =>
      if s.bindings.binds name then .ok (id, true)
      else
        match s.parent with
        | none => .ok (id, false)
        | some p => locate ss name n p

/-- The value of a name seen from a scope. A chain of parents without a cycle is no longer than the
number of scopes. -/
def get (ss : Scopes) (id : Nat) (name : String) : Except Fault Value := do
  let (owner, _) ← locate ss name (ss.size + 1) id
  match (ss.bindingsOf owner).lookup name with
  | some v => .ok v
  | none => .error (.undefined name)

/-- Assigns to a name seen from a scope: where it is bound, or in the last scope of the chain. -/
def assign (id : Nat) (name : String) (v : Value) (ss : Scopes) : Except Fault Scopes := do
  let (owner, _) ← locate ss name (ss.size + 1) id
  return ss.define owner name v

end Scopes
end FloScript
