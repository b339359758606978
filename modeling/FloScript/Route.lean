import FloScript.Pattern.Reader

/-! Routes: path templates, the patterns made from them, and tables of handlers by pattern and
method. -/
namespace FloScript

namespace Route

/-- The pattern of a parameter: anything up to the next slash. -/
def parameter (name : List Char) : List Char := "(?P<".toList ++ name ++ ">[^/]+)".toList

/-- Replaces every colon with a word after it by a parameter of that name; `word` are the characters
of a word read so far, after its colon. Everything else stays as it is. -/
def expand : Option (List Char) → List Char → List Char
  | none, [] => []
  | none, c :: cs => if c = ':' then expand (some []) cs else c :: expand none cs
  | some word, [] => ended word []
  | some word, c :: cs =>
    if Text.isWordChar c then expand (some (word ++ [c])) cs
    else if c = ':' then ended word (expand (some []) cs)
    else ended word (c :: expand none cs)
where
  ended (word rest : List Char) : List Char :=
    if word.isEmpty then ':' :: rest else parameter word ++ rest

/-- The pattern of a path template. It matches a whole path. -/
def pattern (template : String) : String :=
  "^" ++ String.ofList (expand none template.toList) ++ "$"

/-- What a path gave for the parameters of a template. -/
abbrev Parameters := List (String × Option String)

/-- Handlers by pattern and method, both in the order of their registration. -/
abbrev Table (α : Type) := List (String × List (String × α))

namespace Table

variable {α : Type}

/-- Puts a handler for a method: a method that is there keeps its place. -/
def putMethod (method : String) (h : α) : List (String × α) → List (String × α)
  | [] => [(method, h)]
  | (m, g) :: ms => if m = method then (m, h) :: ms else (m, g) :: putMethod method h ms

/-- Puts a handler for a pattern and a method. -/
def put (pattern method : String) (h : α) : Table α → Table α
  | [] => [(pattern, [(method, h)])]
  | (p, ms) :: t =>
    if p = pattern then (p, putMethod method h ms) :: t else (p, ms) :: put pattern method h t

/-- Registers a handler for a template; the method is written in capitals. -/
def register (template method : String) (h : α) (t : Table α) : Table α :=
  t.put (pattern template) (Text.toCapital method) h

/-- The first handler whose pattern matches a path and that is there for a method. A pattern is read
only when the ones before it have not answered. -/
def find (method path : String) : Table α → Except Fault (Option (α × Parameters))
  | [] => .ok none
  | (p, ms) :: t => do
    match (← Pattern.read p).match? path, ms.lookup method with
    | some ps, some h => return some (h, ps)
    | _, _ => find method path t

end Table
end Route
end FloScript
