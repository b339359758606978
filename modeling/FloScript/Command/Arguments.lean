import FloScript.Text.Numeral

/-! The arguments of the command line: a command, a file, and an option for the output file. -/
namespace FloScript

/-- What the arguments give. -/
structure Arguments where
  command : Option String
  file : Option String
  output : Option String
  deriving DecidableEq, Repr

namespace Arguments

/-- Why arguments are refused. -/
inductive Refusal where
  | missingOutput
  | unrecognized (args : List String)
  deriving DecidableEq, Repr

def Refusal.message : Refusal → String
  | missingOutput => "argument -o/--output: expected one argument"
  | unrecognized args => "unrecognized arguments: " ++ " ".intercalate args

/-- How arguments are to be given to a program. -/
def usage (program : String) : String := "usage: " ++ program ++ " [-o OUTPUT] [command] [file]\n"

/-- What a refusal prints. -/
def Refusal.report (program : String) (r : Refusal) : String :=
  usage program ++ program ++ ": error: " ++ r.message ++ "\n"

/-- What an argument looks like: a plain word, the mark after which all are plain, the output option
with or without its value, or an option that nobody knows. -/
inductive Look where
  | plain
  | mark
  | output (value : Option String)
  | unknown
  deriving DecidableEq, Repr

def shortOption : List Char := "-o".toList

def longOption : List Char := "--output".toList

def isDecimal (c : Char) : Bool := (Text.decimalValue? c).isSome

/-- Whether an argument is a negative number. -/
def isNegativeNumber (cs : List Char) : Bool :=
  match cs with
  | '-' :: ds =>
    let after := ds.dropWhile isDecimal
    (after.isEmpty && !ds.isEmpty) ||
      match after with
      | '.' :: fs => !fs.isEmpty && fs.all isDecimal
      | _ => false
  | _ => false

/-- A text before and after its first equals sign. -/
def splitEquals (cs : List Char) : List Char × Option String :=
  match cs.span (· ≠ '=') with
  | (name, _ :: value) => (name, some (String.ofList value))
  | (name, []) => (name, none)

/-- Looks at an argument. The long option may be cut short, the value of the short one may follow it
directly; negative numbers and texts with blanks are plain. -/
def look (s : String) : Look :=
  let cs := s.toList
  let (name, value) := splitEquals cs
  if cs.head? ≠ some '-' || cs.length = 1 then .plain
  else if cs = shortOption || cs = longOption then .output none
  else if value.isSome && (name = shortOption || name = longOption) then .output value
  else if "--".toList.isPrefixOf cs then
    if name.isPrefixOf longOption then .output value
    else if cs.contains ' ' then .plain
    else .unknown
  else if shortOption.isPrefixOf cs then .output (some (String.ofList (cs.drop 2)))
  else if isNegativeNumber cs || cs.contains ' ' then .plain
  else .unknown

/-- Looks at all arguments. -/
def looks : List String → List (Look × String)
  | [] => []
  | s :: ss =>
    if s = "--" then (.mark, s) :: ss.map fun t => (.plain, t) else (look s, s) :: looks ss

def isOption : Look → Bool
  | .output _ | .unknown => true
  | .plain | .mark => false

/-- Takes marks, then at most one plain argument, then marks; gives what was taken and the rest. -/
def takeWord (args : List (Look × String)) : List String × List (Look × String) :=
  let (before, rest) := args.span fun a => a.1 = .mark
  let (word, rest) := match rest with
    | (.plain, s) :: more => ([s], more)
    | _ => ([], rest)
  let (after, rest) := rest.span fun a => a.1 = .mark
  (before.map (·.2) ++ word ++ after.map (·.2), rest)

/-- The value of what was taken: the first mark does not count. -/
def wordValue (taken : List String) : Option String := (taken.erase "--").head?

/-- Takes the command and the file. Both are settled at once: what is not there is not looked for
again. -/
def takeWords (a : Arguments) (args : List (Look × String)) : Arguments × List (Look × String) :=
  let (first, rest) := takeWord args
  let (second, rest) := takeWord rest
  ({ a with command := wordValue first, file := wordValue second }, rest)

/-- Reads arguments in order; `settled` tells whether command and file are taken, `extra` are those
that have no place. Each round takes at least one argument, so `n` rounds are enough for `n`
arguments. -/
def readFrom (settled : Bool) (a : Arguments) (extra : List String) :
    Nat → List (Look × String) → Except Refusal (Arguments × List String)
  | 0, _ => .ok (a, extra)
  | n + 1, args =>
    match args with
    | (.output (some value), _) :: rest =>
      readFrom settled { a with output := some value } extra n rest
    | (.output none, _) :: (.plain, value) :: rest =>
      readFrom settled { a with output := some value } extra n rest
    | (.output none, _) :: _ => .error .missingOutput
    | (.unknown, s) :: rest => readFrom settled a (extra ++ [s]) n rest
    | args =>
      if settled then
        let (words, rest) := args.span fun x => !isOption x.1
        let extra := extra ++ words.map (·.2)
        if rest.isEmpty then .ok (a, extra) else readFrom settled a extra n rest
      else
        let (a, rest) := takeWords a args
        if rest.isEmpty then .ok (a, extra) else readFrom true a extra n rest

/-- Reads arguments; those that have no place are refused. -/
def read (args : List String) : Except Refusal Arguments := do
  let (a, extra) ← readFrom false ⟨none, none, none⟩ [] (args.length + 1) (looks args)
  if extra.isEmpty then return a else throw (.unrecognized extra)

end Arguments
end FloScript
