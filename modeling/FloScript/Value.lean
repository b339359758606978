import FloScript.Node
import FloScript.Number.Basic

/-! Values. Lists, tuples and dicts are never changed once made, so they are plain trees; what can
change during a run (scopes and tasks) is referred to by number. A value that is not a number, and a
function, has a label, because it equals only itself. -/
namespace FloScript

/-- The routines that are not written in the language: those that every program can call, and those
that the host gives to a program under a name. The latter are asynchronous, and are known by the
place of their definition too. -/
inductive Native where
  | print | len | str | int | float | type | range
  | hosted (name place : String)
  deriving DecidableEq, Repr, Inhabited

/-- The name under which a program finds a routine. -/
def Native.name : Native → String
  | print => "print"
  | len => "len"
  | str => "str"
  | int => "int"
  | float => "float"
  | type => "type"
  | range => "range"
  | hosted name _ => name

/-- The name of the code behind a routine. -/
def Native.codeName : Native → String
  | hosted name _ => name
  | n => n.name ++ "_func"

/-- The name of the code behind a routine, with the place of its definition. -/
def Native.qualifiedName : Native → String
  | hosted name place => place ++ name
  | n => "Interpreter.setup_builtins.<locals>." ++ n.codeName

/-- Whether a routine gives a task. -/
def Native.isAsync : Native → Bool
  | hosted .. => true
  | _ => false

/-- The routines every program starts with, in the order of their definition. -/
def Native.standard : List Native := [.print, .len, .str, .int, .float, .type, .range]

/-- A function with the scope in which it was made. -/
structure Closure where
  parameters : List String
  body : List Node
  scope : Nat
  isAsync : Bool
  deriving Inhabited

/-- A value of a program. -/
inductive Value where
  | null
  | bool (b : Bool)
  | int (i : Int)
  | float (x : Float)
  | nan (label : Nat)
  | text (s : String)
  | list (items : List Value)
  | tuple (items : List Value)
  | dict (entries : List (Value × Value))
  | function (label : Nat) (closure : Closure)
  | native (n : Native)
  | code (n : Native)
  | node (n : Node)
  | scope (id : Nat)
  | bindings (id : Nat)
  | task (name : String) (id : Nat)
  | method (self : Value) (owner name : String)
  | scopeMethod (id : Nat) (name : String)
  deriving Inhabited

/-- The name of the type of a value. -/
def Value.typeName : Value → String
  | null => "NoneType"
  | bool _ => "bool"
  | int _ => "int"
  | float _ | nan _ => "float"
  | text _ => "str"
  | list _ => "list"
  | tuple _ => "tuple"
  | dict _ | bindings _ => "dict"
  | function .. => "FloFunction"
  | native _ => "FloNativeFunction"
  | code _ => "function"
  | node n => n.typeName
  | scope _ => "Environment"
  | task .. => "coroutine"
  | method .. => "builtin_function_or_method"
  | scopeMethod .. => "method"

/-- A value as a number; truth values count as one and zero. -/
def Value.num? : Value → Option Number
  | bool b => some (.int (if b then 1 else 0))
  | int i => some (.int i)
  | float x => some (.float x)
  | nan _ => some (.float (0.0 / 0.0))
  | _ => none

/-- A value as an integer; truth values count as one and zero. -/
def Value.integer? : Value → Option Int
  | bool b => some (if b then 1 else 0)
  | int i => some i
  | _ => none

/-- The greatest size of anything, in bytes or in characters. Memory is taken to hold whatever has a
size. -/
def Value.sizeLimit : Nat := Nat.pow 2 63 - 1

/-- The greatest number of items of a list or tuple: each takes a word of eight bytes. -/
def Value.itemLimit : Nat := sizeLimit / 8

/-- A literal as a value. -/
def Value.ofLiteral : Literal → Value
  | .null => null
  | .bool b => bool b
  | .int i => int i
  | .float x => float x
  | .text s => text s

mutual

/-- A node as a value: what only stands in the place of a node is the plain value it is. -/
def Value.ofNode : Node → Value
  | .group ns => .list (Value.ofNodes ns)
  | .stray v => .ofLiteral v
  | n => .node n

def Value.ofNodes : List Node → List Value
  | [] => []
  | n :: ns => Value.ofNode n :: Value.ofNodes ns

end

/-- A field of a node as a value. -/
def Value.ofField : Node.Field → Value
  | .literal v => .ofLiteral v
  | .names ns => .list (ns.map .text)
  | .node n => .ofNode n
  | .block ns => .list (Value.ofNodes ns)
  | .pairs ps => .list (ps.map fun (k, v) => .tuple [.ofNode k, .ofNode v])

end FloScript
