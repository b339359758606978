import FloScript.Json.Reader
import FloScript.Value.Operator

/-! Writing values as JSON text. The text has ASCII characters only. -/
namespace FloScript.Json

/-- An escaped code: pairs of codes stand for the characters past the first plane. -/
def codeText (c : Char) : List Char :=
  let unit (n : Nat) : List Char := '\\' :: 'u' :: Text.hexDigits 4 n
  let n := c.toNat
  if n < 0x10000 then unit n
  else unit (0xD800 + (n - 0x10000) / 0x400) ++ unit (0xDC00 + (n - 0x10000) % 0x400)

/-- A character inside a string. -/
def charText (c : Char) : List Char :=
  match c with
  | '\x22' => ['\\', '\x22']
  | '\\' => ['\\', '\\']
  | '\n' => ['\\', 'n']
  | '\r' => ['\\', 'r']
  | '\t' => ['\\', 't']
  | '\x08' => ['\\', 'b']
  | '\x0c' => ['\\', 'f']
  | c => if 0x20 ≤ c.toNat && c.toNat < 0x7f then [c] else codeText c

/-- A text between quotes. -/
def stringText (s : String) : String :=
  String.ofList ('\x22' :: s.toList.flatMap charText ++ ['\x22'])

def floatText (x : Float) : String :=
  if x.isNaN then "NaN"
  else if x.isInf then (if x < 0.0 then "-Infinity" else "Infinity")
  else Number.floatText x

/-- The text of a value that has no parts, if it has one in JSON. -/
def leafText (v : Value) : Except Fault String :=
  match v with
  | .null => .ok "null"
  | .bool b => .ok (if b then "true" else "false")
  | .int i => integerText i
  | .float x => .ok (floatText x)
  | .nan _ => .ok "NaN"
  | .text s => .ok (stringText s)
  | v => .error (.type (.notSerializable v.typeName))

/-- The text of a key, which is always between quotes. -/
def keyText (k : Value) : Except Fault String :=
  match k with
  | .text s => .ok (stringText s)
  | .null | .bool _ | .int _ | .float _ | .nan _ => do return stringText (← leafText k)
  | k => .error (.type (.jsonKey k.typeName))

/-- How items are set apart: all in one line, or each on a line of its own, indented by its
level. -/
def enclosed (indent : Option String) (level : Nat) (opening closing : String)
    (items : List String) : String :=
  if items.isEmpty then opening ++ closing
  else
    match indent with
    | none => opening ++ ", ".intercalate items ++ closing
    | some s =>
      let line (k : Nat) : String := "\n" ++ String.join (List.replicate k s)
      opening ++ line (level + 1) ++ ("," ++ line (level + 1)).intercalate items ++ line level ++
        closing

/-- Writes a value nested at most `depth` deep at a level of indentation. The names of a scope may
not stand inside themselves. -/
def writeValue (ss : Scopes) (indent : Option String) :
    Nat → Nat → List Nat → Value → Except Fault String
  | 0, _, _, _ => .error .depth
  | depth + 1, level, seen, v =>
    let entries (seen : List Nat) (es : List (Value × Value)) : Except Fault String := do
      let items ← es.mapM fun e => do
        let key ← keyText e.1
        return key ++ ": " ++ (← writeValue ss indent depth (level + 1) seen e.2)
      return enclosed indent level "\x7b" "\x7d" items
    match v with
    | .list vs | .tuple vs => do
      return enclosed indent level "[" "]" (← vs.mapM (writeValue ss indent depth (level + 1) seen))
    | .dict es => entries seen es
    | .bindings id =>
      if seen.contains id then .error (.value .circularReference)
      else entries (id :: seen) (ss.bindingsOf id).entries
    | v => leafText v

/-- The text by which one level is indented: given as a text or as a number of blanks. -/
def indentText (v : Value) : Except Fault (Option String) :=
  match v with
  | .null => .ok none
  | .text s => .ok (some s)
  | v =>
    match v.integer? with
    | some n => do
      let blanks ← Value.repetitions Value.sizeLimit (.overflow .textRepeat) 1 n
      return some (String.ofList (List.replicate blanks ' '))
    | none => .error (.type (.repetition v.typeName))

/-- The text of a value nested at most `depth` deep, indented as `indent` says. A text by itself
needs no indentation, so what `indent` is does not matter then. -/
def writeWithin (depth : Nat) (ss : Scopes) (v indent : Value) : Except Fault String :=
  match v with
  | .text s => .ok (stringText s)
  | v => do writeValue ss (← indentText indent) depth 0 [] v

/-- The text of a value, indented as `indent` says. -/
def write (ss : Scopes) (v indent : Value) : Except Fault String :=
  writeWithin depthLimit ss v indent

/-- The text of a value, in one line. -/
def encode (ss : Scopes) (v : Value) : Except Fault String := write ss v .null

end FloScript.Json
