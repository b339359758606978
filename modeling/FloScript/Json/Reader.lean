import FloScript.Fault
import FloScript.Value

/-! Reading JSON text. Every reader takes the characters that are left and gives what it read
together with the characters after it; `whole` is the text that is read, from which places in it are
counted. -/
namespace FloScript.Json

/-- Why a text is not JSON. -/
inductive Problem where
  | byteOrderMark | value | comma | colon | key | extra
  | openString | control | escape | codeEscape
  deriving DecidableEq, Repr

def Problem.message : Problem → String
  | byteOrderMark => "Unexpected UTF-8 BOM (decode using utf-8-sig)"
  | value => "Expecting value"
  | comma => "Expecting ',' delimiter"
  | colon => "Expecting ':' delimiter"
  | key => "Expecting property name enclosed in double quotes"
  | extra => "Extra data"
  | openString => "Unterminated string starting at"
  | control => "Invalid control character at"
  | escape => "Invalid \\escape"
  | codeEscape => "Invalid \\uXXXX escape"

def isBlank (c : Char) : Bool := c = ' ' || c = '\t' || c = '\n' || c = '\r'

def skipBlanks (cs : List Char) : List Char := cs.dropWhile isBlank

section
variable (whole : List Char)

/-- A problem at the place where the characters `cs` begin. -/
def refuse {α : Type} (p : Problem) (cs : List Char) : Except Fault α :=
  .error (.json p.message (Offset.within whole (whole.length - cs.length)))

/-! ### Strings -/

/-- The value of a hexadecimal digit. -/
def hexValue? (c : Char) : Option Nat :=
  if c.isDigit then some (c.toNat - 48)
  else if 'a' ≤ c && c ≤ 'f' then some (c.toNat - 87)
  else if 'A' ≤ c && c ≤ 'F' then some (c.toNat - 55)
  else none

/-- The number of four hexadecimal digits. -/
def fourDigits? : List Char → Option (Nat × List Char)
  | a :: b :: c :: d :: cs => do
    let a ← hexValue? a
    let b ← hexValue? b
    let c ← hexValue? c
    let d ← hexValue? d
    return (((a * 16 + b) * 16 + c) * 16 + d, cs)
  | _ => none

/-- Four hexadecimal digits with at least one more character after them; `cs` begins with the `u`
before them. -/
def readCode (cs : List Char) : Except Fault (Nat × List Char) :=
  match fourDigits? (cs.drop 1) with
  | some (n, c :: rest) => .ok (n, c :: rest)
  | _ => refuse whole .codeEscape cs

def isHigh (n : Nat) : Bool := 0xD800 ≤ n && n < 0xDC00

def isLow (n : Nat) : Bool := 0xDC00 ≤ n && n < 0xE000

/-- The character of a number; one half of a pair has none. -/
def charOf (n : Nat) : Char := if 0xD800 ≤ n && n < 0xE000 then '\ufffd' else Char.ofNat n

/-- An escaped code; `cs` begins with the `u`. The two halves of a pair make one character. -/
def readCoded (cs : List Char) : Except Fault (Char × List Char) := do
  let (n, rest) ← readCode whole cs
  match isHigh n, rest with
  | true, '\\' :: 'u' :: more =>
    if rest.length ≤ 6 then return (charOf n, rest)
    else
      match fourDigits? more with
      | none => refuse whole .codeEscape ('u' :: more)
      | some (m, after) =>
        if isLow m then return (Char.ofNat ((n - 0xD800) * 0x400 + (m - 0xDC00) + 0x10000), after)
        else return (charOf n, rest)
  | _, _ => return (charOf n, rest)

/-- The character that a letter after a backslash stands for. -/
def escaped? : Char → Option Char
  | '\x22' => some '\x22'
  | '\\' => some '\\'
  | '/' => some '/'
  | 'b' => some '\x08'
  | 'f' => some '\x0c'
  | 'n' => some '\n'
  | 'r' => some '\r'
  | 't' => some '\t'
  | _ => none

/-- Reads the characters of a string up to its closing quote; `start` begins with the opening
one. -/
def readChars (start : List Char) : Nat → List Char → Except Fault (List Char × List Char)
  | 0, _ => refuse whole .openString start
  | _ + 1, [] => refuse whole .openString start
  | n + 1, c :: cs =>
    if c = '\x22' then .ok ([], cs)
    else if c = '\\' then
      match cs with
      | [] => refuse whole .openString start
      | 'u' :: _ => do
        let (d, rest) ← readCoded whole cs
        let (ds, rest) ← readChars start n rest
        return (d :: ds, rest)
      | e :: rest =>
        match escaped? e with
        | none => refuse whole .escape (c :: cs)
        | some d => do
          let (ds, rest) ← readChars start n rest
          return (d :: ds, rest)
    else if c.toNat < 0x20 then refuse whole .control (c :: cs)
    else do
      let (ds, rest) ← readChars start n cs
      return (c :: ds, rest)

/-- Reads a string; `cs` begins with its opening quote. -/
def readString (cs : List Char) : Except Fault (String × List Char) := do
  let (ds, rest) ← readChars whole cs cs.length (cs.drop 1)
  return (String.ofList ds, rest)

/-! ### Numbers -/

/-- The digits of a fraction with their point, if there are any. -/
def fraction (cs : List Char) : List Char × List Char :=
  match cs with
  | '.' :: rest =>
    let ds := rest.takeWhile Char.isDigit
    if ds.isEmpty then ([], cs) else ('.' :: ds, rest.drop ds.length)
  | _ => ([], cs)

/-- An exponent with its mark and sign, if it has digits. -/
def exponent (cs : List Char) : List Char × List Char :=
  match cs with
  | mark :: rest =>
    if mark = 'e' || mark = 'E' then
      let (sign, rest) := match rest with
        | '+' :: more => (['+'], more)
        | '-' :: more => (['-'], more)
        | _ => ([], rest)
      let ds := rest.takeWhile Char.isDigit
      if ds.isEmpty then ([], cs) else (mark :: sign ++ ds, rest.drop ds.length)
    else ([], cs)
  | [] => ([], [])

/-- The digits before the point: a zero alone or digits that begin with another. -/
def whole? (cs : List Char) : Option (List Char × List Char) :=
  match cs with
  | '0' :: rest => some (['0'], rest)
  | c :: _ =>
    if c.isDigit then
      let ds := cs.takeWhile Char.isDigit
      some (ds, cs.drop ds.length)
    else none
  | [] => none

/-- The minus in front of a number, if there is one. -/
def minus (cs : List Char) : List Char × List Char :=
  match cs with
  | '-' :: rest => (['-'], rest)
  | _ => ([], cs)

/-- Reads a number: an integer, or a float if it has a fraction or an exponent. -/
def readNumber (cs : List Char) : Except Fault (Value × List Char) :=
  let (sign, body) := minus cs
  match whole? body with
  | none => refuse whole .value cs
  | some (ds, rest) =>
    let (f, rest) := fraction rest
    let (e, rest) := exponent rest
    let s := String.ofList (sign ++ ds ++ f ++ e)
    if f.isEmpty && e.isEmpty then
      match Number.readInteger s with
      | .ok i => .ok (.int i, rest)
      | .error err => .error (.ofInteger s err)
    else .ok (.float ((Number.readFloat s).getD 0.0), rest)

/-! ### Values -/

/-- The words that stand for values. -/
def words : List (List Char × Value) :=
  [("null".toList, .null), ("true".toList, .bool true), ("false".toList, .bool false),
   ("NaN".toList, .nan 0), ("Infinity".toList, .float (1.0 / 0.0)),
   ("-Infinity".toList, .float (-1.0 / 0.0))]

/-- The word with which a text begins. -/
def word? (cs : List Char) : Option (Value × List Char) :=
  (words.find? fun w => w.1.isPrefixOf cs).map fun w => (w.2, cs.drop w.1.length)

variable (read : List Char → Except Fault (Value × List Char))

/-- Reads the items of a list that is not empty, up to its bracket. -/
def readItems : Nat → List Char → Except Fault (List Value × List Char)
  | 0, cs => refuse whole .value cs
  | n + 1, cs => do
    let (v, rest) ← read cs
    match skipBlanks rest with
    | ']' :: rest => return ([v], rest)
    | ',' :: rest => do
      let (vs, rest) ← readItems n (skipBlanks rest)
      return (v :: vs, rest)
    | rest => refuse whole .comma rest

/-- Puts an entry into a dict: a key that is there keeps its place and gets the new value. -/
def putMember (key : String) (v : Value) : List (String × Value) → List (String × Value)
  | [] => [(key, v)]
  | (k, w) :: es => if k = key then (k, v) :: es else (k, w) :: putMember key v es

/-- Reads one entry of a dict. -/
def readMember (cs : List Char) : Except Fault ((String × Value) × List Char) := do
  match cs with
  | '\x22' :: _ =>
    let (key, rest) ← readString whole cs
    match skipBlanks rest with
    | ':' :: rest =>
      let (v, rest) ← read (skipBlanks rest)
      return ((key, v), rest)
    | rest => refuse whole .colon rest
  | _ => refuse whole .key cs

/-- Reads the entries of a dict that is not empty, up to its brace, after the entries `es`. -/
def readMembers :
    Nat → List (String × Value) → List Char → Except Fault (List (String × Value) × List Char)
  | 0, _, cs => refuse whole .key cs
  | n + 1, es, cs => do
    let ((key, v), rest) ← readMember whole read cs
    let es := putMember key v es
    match skipBlanks rest with
    | '\x7d' :: rest => return (es, rest)
    | ',' :: rest => readMembers n es (skipBlanks rest)
    | rest => refuse whole .comma rest

/-- Reads a value, given how the values in it are read. -/
def readWith (cs : List Char) : Except Fault (Value × List Char) :=
  match cs with
  | '\x22' :: _ => do
    let (s, rest) ← readString whole cs
    return (.text s, rest)
  | '[' :: rest =>
    match skipBlanks rest with
    | ']' :: rest => .ok (.list [], rest)
    | rest => do
      let (vs, rest) ← readItems whole read rest.length rest
      return (.list vs, rest)
  | '\x7b' :: rest =>
    match skipBlanks rest with
    | '\x7d' :: rest => .ok (.dict [], rest)
    | rest => do
      let (es, rest) ← readMembers whole read rest.length [] rest
      return (.dict (es.map fun e => (.text e.1, e.2)), rest)
  | _ =>
    match word? cs with
    | some (v, rest) => .ok (v, rest)
    | none => readNumber whole cs

end

/-- Reads a value nested at most `depth` deep. -/
def readValue (whole : List Char) : Nat → List Char → Except Fault (Value × List Char)
  | 0, _ => .error .depth
  | depth + 1, cs => readWith whole (readValue whole depth) cs

/-- Reads a text that is one value nested at most `depth` deep. -/
def readWithin (depth : Nat) (s : String) : Except Fault Value := do
  let cs := s.toList
  if cs.head? = some '\ufeff' then refuse cs .byteOrderMark cs
  let (v, rest) ← readValue cs depth (skipBlanks cs)
  match skipBlanks rest with
  | [] => return v
  | rest => refuse cs .extra rest

/-- Nesting deeper than this is not read. -/
def depthLimit : Nat := 980

/-- Reads a text that is one value. -/
def read (s : String) : Except Fault Value := readWithin depthLimit s

/-- Another name for reading, beside `encode`. -/
def decode (s : String) : Except Fault Value := read s

end FloScript.Json
