import FloScript.Text.Word
import FloScript.Token

/-! The scanner reads a source text into tokens. Its state is the text still to read and the place
reached; after an error it stands where reading stopped and can go on. -/
namespace FloScript

/-- The place after a character. -/
def Position.after (p : Position) (c : Char) : Position :=
  if c = '\n' then ⟨p.line + 1, 1⟩ else ⟨p.line, p.column + 1⟩

/-- The state of reading a source text. -/
structure Scanner where
  source : List Char
  rest : List Char
  pos : Nat
  place : Position
  tokens : Array Token
  deriving Inhabited

/-- A step of reading: it gives a result or a fault, and a new state in both cases. -/
abbrev Scan := EStateM Fault Scanner

namespace Scanner

/-- The state before the first character of a text. -/
def ofSource (s : String) : Scanner := ⟨s.toList, s.toList, 0, ⟨1, 1⟩, #[]⟩

/-- The state after the next `n` characters, or after the last one. -/
def skip : Nat → Scanner → Scanner
  | 0, s => s
  | n + 1, s =>
    match s.rest with
    | [] => s
    | c :: cs => skip n { s with rest := cs, pos := s.pos + 1, place := s.place.after c }

/-- The character a given distance from the next one, if it is inside the text. Places before the
first character count from the end of the text. -/
def peek (offset : Int) : Scan (Option Char) := do
  let s ← get
  let i := s.pos + offset
  if 0 ≤ i then return s.source[i.toNat]?
  let j := i + s.source.length
  if 0 ≤ j then return s.source[j.toNat]?
  throw (.outOfRange "string")

/-- Reads one character, if there is one. -/
def advance : Scan (Option Char) := do
  let s ← get
  set (s.skip 1)
  return s.rest.head?

/-- A fault at the place reached. -/
def reject {α : Type} (cause : SourceFault) : Scan α := do
  throw (.lexical (← get).place cause)

/-- Passes over the characters of a class and gives them. -/
def takeRun (p : Char → Bool) : Scan (List Char) := do
  let s ← get
  let run := s.rest.takeWhile p
  set (s.skip run.length)
  return run

/-- Characters that separate tokens. -/
def isGap (c : Char) : Bool := c = ' ' || c = '\t' || c = '\r'

/-- Passes over blanks; a newline is not one of them. -/
def skipBlanks : Scan Unit := discard (takeRun isGap)

/-- Passes over a comment, if one begins here; the newline after it stays. -/
def skipComment : Scan Unit := do
  if (← get).rest.head? = some '#' then discard (takeRun (· ≠ '\n'))

/-- What an escaped character stands for. -/
def unescape : Char → Char
  | 'n' => '\n'
  | 't' => '\t'
  | 'r' => '\r'
  | c => c

/-- The inside of a string up to its closing quote: the characters it stands for and the number of
characters read, the quote included; none if the text ends first. -/
def stringBody (quote : Char) : List Char → Option (List Char × Nat)
  | [] => none
  | '\\' :: cs =>
    if quote = '\\' then some ([], 1)
    else
      match cs with
      | [] => none
      | c :: cs => (stringBody quote cs).map fun (v, n) => (unescape c :: v, n + 2)
  | c :: cs =>
    if c = quote then some ([], 1)
    else (stringBody quote cs).map fun (v, n) => (c :: v, n + 1)

/-- Reads a string. The opening quote is the next character, whatever it is. -/
def readString (quote : Char) : Scan String := do
  let s ← get
  match stringBody quote (s.rest.drop 1) with
  | some (v, n) =>
    set (s.skip (n + 1))
    return String.ofList v
  | none =>
    set (s.skip s.rest.length)
    reject .unterminatedString

/-- The characters of a number: digits with at most one point among them. -/
def numberRun (pointed : Bool) : List Char → List Char
  | [] => []
  | c :: cs =>
    if c = '.' then if pointed then [] else c :: numberRun true cs
    else if Text.isDigit c then c :: numberRun pointed cs
    else []

/-- The value of the characters of a number. -/
def numberValue (run : List Char) : Except Fault Literal :=
  let text := String.ofList run
  if run.contains '.' then
    match Number.readFloat text with
    | some x => .ok (.float x)
    | none => .error (.value (.floatText text))
  else
    match Number.readInteger text with
    | .ok i => .ok (.int i)
    | .error e => .error (.ofInteger text e)

/-- Reads a number. -/
def readNumber : Scan Literal := do
  let s ← get
  let run := numberRun false s.rest
  set (s.skip run.length)
  match numberValue run with
  | .ok v => return v
  | .error e => throw e

/-- Reads the letters, numerals and underscores that come next. -/
def readWord : Scan String := return String.ofList (← takeRun Text.isWordChar)

/-- Adds a token. -/
def push (kind : Kind) (value : Literal) (place : Position) : Scan Unit :=
  modify fun s => { s with tokens := s.tokens.push ⟨kind, value, place⟩ }

/-- Adds an operator of `n` characters and passes over it. -/
def pushOperator (kind : Kind) (n : Nat) : Scan Unit := do
  let s ← get
  push kind (.text (String.ofList (s.rest.take n))) s.place
  modify (skip n)

/-- Reads one token, or passes over one comment; `c` is the next character. -/
def lexeme (c : Char) : Scan Unit := do
  let s ← get
  if c = '#' then skipComment
  else if c = '\n' then pushOperator .newline 1
  else if c = '\x22' || c = '\x27' then push .string (.text (← readString c)) s.place
  else if Text.isDigit c then push .number (← readNumber) s.place
  else if Text.isLetter c || c = '_' then
    let word ← readWord
    push (.ofWordText word) (.text word) s.place
  else
    match (s.rest[1]?).bind (Kind.pairOperator? c) with
    | some kind => pushOperator kind 2
    | none =>
      match Kind.operator? c with
      | some kind => pushOperator kind 1
      | none => reject (.unexpectedCharacter c)

/-- Reads at most `n` tokens or comments. -/
def lexemes : Nat → Scan Unit
  | 0 => pure ()
  | n + 1 => do
    skipBlanks
    match (← get).rest with
    | [] => pure ()
    | c :: _ =>
      lexeme c
      lexemes n

/-- Reads the whole text and gives all tokens read so far, the last of which marks the end. No more
tokens can be read than there are characters. -/
def tokenize : Scan (Array Token) := do
  lexemes (← get).rest.length
  push .eof .null (← get).place
  return (← get).tokens

end Scanner

/-- The tokens of a source text. -/
def tokensOf (s : String) : Except Fault (List Token) :=
  match Scanner.tokenize (Scanner.ofSource s) with
  | .ok ts _ => .ok ts.toList
  | .error e _ => .error e

end FloScript
