import FloScript.Value.Equality

/-! What stands after a dot or in brackets behind a value. -/
namespace FloScript.Value

/-- The methods of texts. -/
def textMethods : List String :=
  ["capitalize", "casefold", "center", "count", "encode", "endswith", "expandtabs", "find",
   "format", "format_map", "index", "isalnum", "isalpha", "isascii", "isdecimal", "isdigit",
   "isidentifier", "islower", "isnumeric", "isprintable", "isspace", "istitle", "isupper", "join",
   "ljust", "lower", "lstrip", "partition", "removeprefix", "removesuffix", "replace", "rfind",
   "rindex", "rjust", "rpartition", "rsplit", "rstrip", "split", "splitlines", "startswith",
   "strip", "swapcase", "title", "translate", "upper", "zfill"]

def listMethods : List String :=
  ["append", "clear", "copy", "count", "extend", "index", "insert", "pop", "remove", "reverse",
    "sort"]

def dictMethods : List String :=
  ["clear", "copy", "get", "items", "keys", "pop", "popitem", "setdefault", "update", "values"]

def integerMethods : List String :=
  ["as_integer_ratio", "bit_count", "bit_length", "conjugate", "to_bytes"]

def floatMethods : List String := ["as_integer_ratio", "conjugate", "hex", "is_integer"]

/-- The methods of the values of a type, and those of the type itself. -/
def methodsOf : Value → List String × List String
  | bool _ | int _ => (integerMethods, ["from_bytes"])
  | float _ | nan _ => (floatMethods, ["fromhex"])
  | text _ => (textMethods, ["maketrans"])
  | list _ => (listMethods, [])
  | tuple _ => (["count", "index"], [])
  | dict _ | bindings _ => (dictMethods, ["fromkeys"])
  | task .. => (["close", "send", "throw"], [])
  | _ => ([], [])

/-- A method of a value; methods can be shown and compared, not called. -/
def method? (v : Value) (name : String) : Option Value :=
  let (own, shared) := v.methodsOf
  if own.contains name then some (method v v.typeName name)
  else if shared.contains name then some (method v "type" name)
  else none

/-- The parts of a number. -/
def numberPart? (v : Value) (name : String) : Option Value :=
  match v.integer?, v, name with
  | some i, _, "real" | some i, _, "numerator" => some (int i)
  | some _, _, "imag" => some (int 0)
  | some _, _, "denominator" => some (int 1)
  | none, float _, "real" | none, nan _, "real" => some v
  | none, float _, "imag" | none, nan _, "imag" => some (float 0.0)
  | _, _, _ => none

/-- The parts of a value of a run: a function, a routine, a scope or a node. -/
def part? (ss : Scopes) (v : Value) (name : String) : Option Value :=
  match v, name with
  | function _ f, "params" => some (list (f.parameters.map text))
  | function _ f, "body" => some (list (ofNodes f.body))
  | function _ f, "closure" => some (scope f.scope)
  | function _ f, "is_async" => some (bool f.isAsync)
  | native n, "func" => some (code n)
  | native n, "is_async" => some (bool n.isAsync)
  | scope id, "vars" => some (bindings id)
  | scope id, "parent" => some (((ss[id]?.bind (·.parent)).map scope).getD null)
  | scope id, "define" | scope id, "get" | scope id, "set" => some (scopeMethod id name)
  | node n, _ => (n.fields.lookup name).map ofField
  | _, _ => none

/-- What stands after a dot: an entry of a dict, else a part or a method of the value, else null.
What the host knows of any value, under names between double underscores, is left out. -/
def member (ss : Scopes) (v : Value) (name : String) : Except Fault Value := do
  if let some es := v.entries? ss then
    if let some w ← find? ss (text name) es then
      return w
  return (v.numberPart? name <|> v.part? ss name <|> v.method? name).getD null

/-- The item at a place; a negative place counts from the end. -/
def item? (items : List Value) (i : Int) : Option Value :=
  if i < 0 then (if items.length < i.natAbs then none else items[items.length - i.natAbs]?)
  else items[i.toNat]?

/-- The characters of a text as values. -/
def characters (s : String) : List Value := s.toList.map fun c => text c.toString

/-- What stands in brackets behind a value; null where there is nothing. -/
def index (ss : Scopes) (v i : Value) : Except Fault Value :=
  match v, i.integer? with
  | text s, some n => .ok ((item? (characters s) n).getD null)
  | list items, some n | tuple items, some n => .ok ((item? items n).getD null)
  | _, _ =>
    match v.entries? ss with
    | none => .ok null
    | some es =>
      if i.unhashable?.isSome then .ok null else do return (← find? ss i es).getD null

end FloScript.Value
