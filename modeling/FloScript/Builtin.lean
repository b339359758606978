import FloScript.Machine
import FloScript.Value.Display

/-! The routines that are not written in the language. -/
namespace FloScript.Native

/-- Checks that a routine is called with one argument. -/
def single (n : Native) : List Value → Run Value
  | [v] => return v
  | [] => Run.fail (.type (.missingArgument n.qualifiedName "obj"))
  | vs => Run.fail (.type (.surplusArguments n.qualifiedName "1 positional argument" vs.length))

/-- Prints values with blanks between them. What was written before a value that has no text
stays. -/
def printAll (first : Bool) : List Value → Run Unit
  | [] => Run.write "\n"
  | v :: vs => do
    unless first do Run.write " "
    Run.write (← Run.lift (v.display (← Run.scopes)))
    printAll false vs

/-- The length of a text, list or dict; zero for everything else. -/
def lengthOf (ss : Scopes) : Value → Nat
  | .text s => s.length
  | .list items => items.length
  | .dict es => es.length
  | .bindings id => (ss.bindingsOf id).length
  | _ => 0

/-- A value as an integer. -/
def toInteger : Value → Except Fault Int
  | .text s =>
    match Number.readInteger s with
    | .ok i => .ok i
    | .error e => .error (.ofInteger s e)
  | v =>
    match v.num? with
    | some x => x.truncate
    | none => .error (.type (.integerArgument v.typeName))

/-- A value as a float; what is not a number stays the value it is. -/
def toFloat : Value → Run Value
  | .text s =>
    match Number.readFloat s with
    | some x => Run.ofNumber (.float x)
    | none => Run.fail (.value (.floatText s))
  | .nan l => return .nan l
  | v =>
    match v.num? with
    | some x => do Run.ofNumber (.float (← Run.lift x.toFloat))
    | none => Run.fail (.type (.floatArgument v.typeName))

/-- A bound of a range. -/
def bound (v : Value) : Except Fault Int :=
  match v.integer? with
  | some i => .ok i
  | none => .error (.type (.notInteger v.typeName))

/-- The number of steps from `start` that stay before `stop`; `step` is not zero. -/
def stepsBetween (start stop step : Int) : Nat :=
  if 0 < step then ((stop - start + step - 1) / step).toNat
  else ((start - stop - step - 1) / -step).toNat

/-- The integers from `start` by `step` before `stop`. -/
def steps (start stop step : Int) : Except Fault Value :=
  let n := stepsBetween start stop step
  if Value.sizeLimit < n then .error (.overflow (.machineWord "ssize_t"))
  else if Value.itemLimit < n then .error .memory
  else .ok (.list ((List.range n).map fun k : Nat => .int (start + k * step)))

/-- A list of integers from bounds. -/
def rangeOf : List Value → Except Fault Value
  | [] => .error (.type .rangeTooFew)
  | [stop] => do steps 0 (← bound stop) 1
  | [start, stop] => do steps (← bound start) (← bound stop) 1
  | [start, stop, step] => do
    let a ← bound start
    let b ← bound stop
    let c ← bound step
    if c = 0 then .error (.value .zeroStep) else steps a b c
  | vs => .error (.type (.rangeTooMany vs.length))

/-- A task that gives its argument when it is awaited. -/
def newTask (n : Native) : List Value → Run Value
  | [] => task .null
  | [v] => task v
  | vs =>
    Run.fail
      (.type (.surplusArguments n.qualifiedName "from 0 to 1 positional arguments" vs.length))
where
  task (v : Value) : Run Value :=
    modifyGet fun m =>
      (.task n.qualifiedName m.tasks.size, { m with tasks := m.tasks.push (some v) })

/-- Calls a routine. -/
def call (n : Native) (args : List Value) : Run Value :=
  match n with
  | print => do
    printAll true args
    return .null
  | len => do
    let v ← n.single args
    return .int (lengthOf (← Run.scopes) v)
  | str => do
    let v ← n.single args
    return .text (← Run.lift (v.display (← Run.scopes)))
  | int => do
    let v ← n.single args
    return .int (← Run.lift (toInteger v))
  | float => do toFloat (← n.single args)
  | type => do return .text (← n.single args).typeName
  | range => Run.lift (rangeOf args)
  | hosted .. => n.newTask args

end FloScript.Native
