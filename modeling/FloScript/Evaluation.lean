import FloScript.Builtin
import FloScript.Value.Member
import FloScript.Value.Operator

/-! Evaluation of a syntax tree in a scope. `step` evaluates one node, given how the nodes in it are
evaluated; `eval` ties the knot, at most so many nodes deep. Rounds of loops are counted apart from
the depth. -/
namespace FloScript

/-- How nodes are evaluated in scopes. -/
abbrev Evaluator := Node → Nat → Run Value

namespace Evaluator

variable (ev : Evaluator)

/-- Evaluates statements in order; the last one gives the value, `v` if there is none. -/
def block (scope : Nat) : Value → List Node → Run Value
  | v, [] => return v
  | _, n :: ns => do block scope (← ev n scope) ns

/-- Evaluates nodes in order and gives all values. -/
def all (scope : Nat) : List Node → Run (List Value)
  | [] => return []
  | n :: ns => do
    let v ← ev n scope
    return v :: (← all scope ns)

/-- Evaluates the entries of a dict in order. -/
def entries (scope : Nat) : List (Value × Value) → List (Node × Node) → Run (List (Value × Value))
  | es, [] => return es
  | es, (k, v) :: ps => do
    let key ← ev k scope
    let value ← ev v scope
    entries scope (← Run.lift (Value.insert (← Run.scopes) key value es)) ps

/-- Binds parameters to arguments; missing ones are null, surplus ones are dropped. -/
def bind (scope : Nat) : List String → List Value → Run Unit
  | [], _ => return ()
  | p :: ps, args => do
    Run.define scope p (args.headD .null)
    bind scope ps args.tail

/-- Runs a function body: a return ends it with the returned value. -/
def body (scope : Nat) (ns : List Node) : Run Value := do
  match ← Run.capture (block ev scope .null ns) with
  | .error (.returned v) => return v
  | ending => Run.release ending

/-- Calls a value. -/
def call (f : Value) (args : List Value) : Run Value := do
  match f with
  | .native n => n.call args
  | .function _ c =>
    let scope ← Run.callScope c.scope
    bind scope c.parameters args
    body ev scope c.body
  | v => Run.fail (.runtime (.notCallable (← Run.lift (v.display (← Run.scopes)))))

/-- Evaluates a body as long as a condition holds; `unfinished` after `n` rounds. -/
def loop (scope : Nat) (condition : Node) (ns : List Node) : Nat → Value → Run Value
  | 0, _ => throw .unfinished
  | n + 1, v => do
    let c ← ev condition scope
    if c.truthy (← Run.scopes) then loop scope condition ns n (← block ev scope v ns) else return v

/-- Evaluates a body for each item of a list. -/
def each (scope : Nat) (name : String) (ns : List Node) : Value → List Value → Run Value
  | v, [] => return v
  | v, item :: items => do
    Run.define scope name item
    each scope name ns (← block ev scope v ns) items

/-- Evaluates a body for each name of a scope. The names are read as the loop goes on, so binding a
name that is not among them ends it with a fault. -/
def eachName (scope : Nat) (name : String) (ns : List Node) (id size : Nat) :
    Nat → Value → Run Value
  | 0, v => do
    if ((← Run.scopes).bindingsOf id).length = size then return v
    else Run.fail (.runtime .changedWhileRead)
  | left + 1, v => do
    let bs := (← Run.scopes).bindingsOf id
    if bs.length ≠ size then Run.fail (.runtime .changedWhileRead)
    else
      match bs[size - (left + 1)]? with
      | none => return v
      | some (k, _) =>
        Run.define scope name (.text k)
        eachName scope name ns id size left (← block ev scope v ns)

/-- Evaluates a body for each item of a value. -/
def iterate (scope : Nat) (name : String) (ns : List Node) (v : Value) : Run Value := do
  match v with
  | .list items | .tuple items => each ev scope name ns .null items
  | .text s => each ev scope name ns .null (Value.characters s)
  | .dict es => each ev scope name ns .null (es.map (·.1))
  | .bindings id =>
    let size := ((← Run.scopes).bindingsOf id).length
    eachName ev scope name ns id size size .null
  | v => Run.fail (.type (.notIterable v.typeName))

/-- The text of what a catch clause caught. -/
def caughtText : Signal → Run String
  | .fault f => return f.message
  | .returned v => do Run.lift (v.display (← Run.scopes))
  | .unfinished => throw .unfinished

/-- Runs a catch clause; an absent or empty one lets the signal pass. -/
def handle (scope : Nat) (name : Option String) (clause : Option (List Node)) (e : Signal) :
    Run Value := do
  match clause with
  | none | some [] => throw e
  | some ns =>
    let inner ← Run.newScope (some scope)
    if let some x := name then
      unless x.isEmpty do
        Run.define inner x (.text (← caughtText e))
    block ev inner .null ns

/-- Runs a block, its catch clause if the block ends with a signal, and its last clause in every
case. -/
def attempt (scope : Nat) (ns : List Node) (name : Option String)
    (clause last : Option (List Node)) :
    Run Value := do
  let ending ← Run.capture (block ev scope .null ns)
  let ending ← match ending with
    | .ok v => pure (.ok v)
    | .error .unfinished => throw .unfinished
    | .error e => Run.capture (handle ev scope name clause e)
  match ending with
  | .error .unfinished => throw .unfinished
  | _ =>
    let _ ← block ev scope .null (last.getD [])
    Run.release ending

/-- Waits for a task, which can be done once; every other value is ready. -/
def await (v : Value) : Run Value := do
  match v with
  | .task _ id =>
    match (← get).tasks[id]? with
    | some (some w) =>
      modify fun m => { m with tasks := m.tasks.setIfInBounds id none }
      return w
    | _ => Run.fail (.runtime .alreadyAwaited)
  | v => return v

/-- The value of a literal. -/
def literal : Literal → Run Value
  | .float x => Run.ofNumber (.float x)
  | v => return .ofLiteral v

/-- Whether what stands in the place of a node counts as true. -/
def present : Node → Bool
  | .group ns => !ns.isEmpty
  | .stray v => v.truthy
  | _ => true

/-- Evaluates one node; `rounds` bounds each loop. -/
def step (rounds : Nat) (n : Node) (scope : Nat) : Run Value := do
  match n with
  | .program ns => block ev scope .null ns
  | .number v | .string v | .boolean v => literal v
  | .null => return .null
  | .identifier name => Run.lookup scope name
  | .binary l op r =>
    let a ← ev l scope
    let b ← ev r scope
    match Operator.ofText? op with
    | some o => Value.apply o a b
    | none => Run.fail (.runtime (.unknownOperator op))
  | .unary op x =>
    let v ← ev x scope
    match op with
    | "-" => v.negate
    | "!" => return .bool !(v.truthy (← Run.scopes))
    | _ => Run.fail (.runtime (.unknownUnaryOperator op))
  | .assignment name x =>
    let v ← ev x scope
    Run.assign scope name v
    return v
  | .list ns => return .list (← all ev scope ns)
  | .dict ps => return .dict (← entries ev scope [] ps)
  | .member x name =>
    let v ← ev x scope
    Run.lift (v.member (← Run.scopes) name)
  | .index x i =>
    let v ← ev x scope
    let w ← ev i scope
    Run.lift (v.index (← Run.scopes) w)
  | .call f xs =>
    let g ← ev f scope
    let args ← all ev scope xs
    call ev g args
  | .function name ps ns isAsync =>
    let f := Value.function (← Run.label) ⟨ps, ns, scope, isAsync⟩
    if let some x := name then
      unless x.isEmpty do Run.define scope x f
    return f
  | .conditional c yes no =>
    let v ← ev c scope
    if v.truthy (← Run.scopes) then block ev scope .null yes else block ev scope .null (no.getD [])
  | .whileLoop c ns => loop ev scope c ns rounds .null
  | .forLoop name x ns =>
    let v ← ev x scope
    iterate ev scope name ns v
  | .returning x =>
    match x with
    | some y => if present y then throw (.returned (← ev y scope)) else throw (.returned .null)
    | none => throw (.returned .null)
  | .trying ns name clause last => attempt ev scope ns name clause last
  | .decorated _ f => ev f scope
  | .decorator .. => return .null
  | .await x => await (← ev x scope)
  | .blank | .group _ | .stray _ => Run.fail (.runtime (.unknownNode n.typeName))

end Evaluator

/-- Evaluates a node in a scope, at most `depth` nodes deep. -/
def eval (rounds : Nat) : Nat → Evaluator
  | 0 => fun _ _ => Run.fail .depth
  | depth + 1 => Evaluator.step (eval rounds depth) rounds

/-- The rounds a loop may take. -/
def roundLimit : Nat := Nat.pow 10 15

/-- Evaluates a node in the global scope. -/
def evaluate (n : Node) : Run Value := eval roundLimit depthLimit n Machine.globals

end FloScript
