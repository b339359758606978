import FloScript.Scope

/-! The text of a value: as it is printed, and as it stands inside a list, where texts are
quoted. -/
namespace FloScript

/-- Integers of 14300 bits have too many digits, so that they need not be worked out. -/
def integerBound : Nat := Nat.pow (Nat.pow 2 143) 100

/-- The text of an integer, if it is not too long to be written. -/
def integerText (i : Int) : Except Fault String :=
  if integerBound ≤ i.natAbs then .error (.value .integerUnwritable)
  else
    let ds := Number.digitsOf i.natAbs
    if Number.digitLimit < ds.length then .error (.value .integerUnwritable)
    else .ok (Literal.intText i)

/-- The text of something known by its place in memory only. -/
def placed (what : String) : String := "<" ++ what ++ " at 0x0>"

/-- Bindings as the entries of a dict. -/
def Bindings.entries (bs : Bindings) : List (Value × Value) := bs.map fun b => (.text b.1, b.2)

/-- The entries of a dict, or of the names of a scope read as a dict. -/
def Value.entries? (ss : Scopes) : Value → Option (List (Value × Value))
  | dict es => some es
  | bindings id => some (ss.bindingsOf id).entries
  | _ => none

/-- Nesting deeper than this is not worked out. -/
def depthLimit : Nat := 960

namespace Value

/-- Texts of entries in braces. -/
def braced (ts : List String) : String := "\x7b" ++ ", ".intercalate ts ++ "\x7d"

/-- The text of a value inside a list, nested at most `n` deep. The names of a scope that are
already being written are not written again. -/
def quotedWithin (ss : Scopes) : Nat → List Nat → Value → Except Fault String
  | 0, _, _ => .error .depth
  | n + 1, seen, v =>
    let inner := quotedWithin ss n seen
    match v with
    | null => .ok "None"
    | bool b => .ok (if b then "True" else "False")
    | int i => integerText i
    | float x => .ok (Number.floatText x)
    | nan _ => .ok "nan"
    | text s => .ok (Text.quote s)
    | list items => do return Node.bracketed (← items.mapM inner)
    | tuple [item] => do return "(" ++ (← inner item) ++ ",)"
    | tuple items => do return "(" ++ ", ".intercalate (← items.mapM inner) ++ ")"
    | dict es => do return braced (← es.mapM fun e => return (← inner e.1) ++ ": " ++ (← inner e.2))
    | bindings id =>
      if seen.contains id then .ok (braced ["..."])
      else do
        let inner := quotedWithin ss n (id :: seen)
        return braced (← (ss.bindingsOf id).mapM fun b =>
          return Text.quote b.1 ++ ": " ++ (← inner b.2))
    | function .. => .ok (placed "flo.interpreter.FloFunction object")
    | native _ => .ok (placed "flo.interpreter.FloNativeFunction object")
    | code c => .ok (placed ("function " ++ c.qualifiedName))
    | node t => .ok t.listing
    | scope _ => .ok (placed "flo.interpreter.Environment object")
    | task name _ => .ok (placed ("coroutine object " ++ name))
    | method _ owner name =>
      .ok (placed ("built-in method " ++ name ++ " of " ++ owner ++ " object"))
    | scopeMethod _ name =>
      .ok ("<bound method Environment." ++ name ++ " of " ++
        placed "flo.interpreter.Environment object" ++ ">")

/-- The text of a value inside a list. -/
def quoted (ss : Scopes) (v : Value) : Except Fault String := quotedWithin ss depthLimit [] v

/-- The text of a value as it is printed. -/
def display (ss : Scopes) : Value → Except Fault String
  | text s => .ok s
  | v => v.quoted ss

/-- Whether a value counts as true. -/
def truthy (ss : Scopes) : Value → Bool
  | null => false
  | bool b => b
  | int i => i != 0
  | float x => x != 0.0
  | text s => !s.isEmpty
  | list items | tuple items => !items.isEmpty
  | dict es => !es.isEmpty
  | bindings id => !(ss.bindingsOf id).isEmpty
  | _ => true

end Value
end FloScript
