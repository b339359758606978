import FloScript.Fault
import FloScript.Pattern
import FloScript.Text.CharName

/-! Reading patterns from text. -/
namespace FloScript.Pattern

/-- Why a text is not a pattern. -/
inductive Problem where
  | openGroup | openSet | openComment | unbalanced | endOfPattern
  | nothingToRepeat | multipleRepeat | repeatBounds
  | missingName | openName (terminator : Char) | badName (name : String)
  | unknownName (name : String)
  | missingBrace | missingCharName | unknownCharName (name : String)
  | redefinition (name : String) (number before : Nat)
  | unknownExtension (text : String)
  | openReference | innerReference | badReference (n : Nat) | zeroReference
  | branches
  | escapeAtEnd | badEscape (text : String) | shortEscape (text : String) | octal (text : String)
  | badRange (text : String)
  | globalFlags | localeFlag | incompatibleFlags | flagsEnd | unknownFlag | missingFlag
  | missingColon
  | turnOnGlobal | turnOffType | turnOffGlobal | onAndOff
  deriving DecidableEq, Repr

def Problem.message : Problem → String
  | openGroup => "missing ), unterminated subpattern"
  | openSet => "unterminated character set"
  | openComment => "missing ), unterminated comment"
  | unbalanced => "unbalanced parenthesis"
  | endOfPattern => "unexpected end of pattern"
  | nothingToRepeat => "nothing to repeat"
  | multipleRepeat => "multiple repeat"
  | repeatBounds => "min repeat greater than max repeat"
  | missingName => "missing group name"
  | openName terminator => "missing " ++ terminator.toString ++ ", unterminated name"
  | badName name => "bad character in group name " ++ Text.quote name
  | unknownName name => "unknown group name " ++ Text.quote name
  | missingBrace => "missing \x7b"
  | missingCharName => "missing character name"
  | unknownCharName name => "undefined character name " ++ Text.quote name
  | redefinition name number before =>
    "redefinition of group name " ++ Text.quote name ++ " as group " ++ toString number ++
      "; was group " ++ toString before
  | unknownExtension text => "unknown extension ?" ++ text
  | openReference => "cannot refer to an open group"
  | innerReference => "cannot refer to group defined in the same lookbehind subpattern"
  | badReference n => "invalid group reference " ++ toString n
  | zeroReference => "bad group number"
  | branches => "conditional backref with more than two branches"
  | escapeAtEnd => "bad escape (end of pattern)"
  | badEscape text => "bad escape " ++ text
  | shortEscape text => "incomplete escape " ++ text
  | octal text => "octal escape value " ++ text ++ " outside of range 0-0o377"
  | badRange text => "bad character range " ++ text
  | globalFlags => "global flags not at the start of the expression"
  | localeFlag => "bad inline flags: cannot use 'L' flag with a str pattern"
  | incompatibleFlags => "bad inline flags: flags 'a', 'u' and 'L' are incompatible"
  | flagsEnd => "missing -, : or )"
  | unknownFlag => "unknown flag"
  | missingFlag => "missing flag"
  | missingColon => "missing :"
  | turnOnGlobal => "bad inline flags: cannot turn on global flag"
  | turnOffType => "bad inline flags: cannot turn off flags 'a', 'u' and 'L'"
  | turnOffGlobal => "bad inline flags: cannot turn off global flag"
  | onAndOff => "bad inline flags: flag turned on and off"

/-- The fewest and the most characters that a pattern matches. -/
structure Width where
  least : Nat
  most : Nat
  deriving DecidableEq, Repr

/-- Widths are not told apart from here on. -/
def widthLimit : Nat := Nat.pow 2 64

/-- The greatest number of rounds that is written in a pattern. -/
def repeatLimit : Nat := Nat.pow 2 32 - 1

/-- The width of a pattern, given the widths of groups. -/
def width (groups : List (Nat × Width)) : Pattern → Width
  | empty | anchor _ | look .. => ⟨0, 0⟩
  | one _ => ⟨1, 1⟩
  | cat p q =>
    let a := width groups p
    let b := width groups q
    ⟨min widthLimit (a.least + b.least), min widthLimit (a.most + b.most)⟩
  | alt p q | choice _ p q =>
    let a := width groups p
    let b := width groups q
    ⟨min a.least b.least, max a.most b.most⟩
  | group _ p | atomic p => width groups p
  | backref n _ => (groups.lookup n).getD ⟨0, 0⟩
  | times p least most _ =>
    let a := width groups p
    ⟨min widthLimit (a.least * least),
      match most with
      | some m => min widthLimit (a.most * m)
      | none => if a.most = 0 then 0 else widthLimit⟩

/-- What is known while a pattern is read. Groups are numbered from one; `groups` is the next
number. -/
structure State where
  whole : List Char
  rest : List Char
  groups : Nat
  names : List (String × Nat)
  widths : List (Nat × Width)
  lookbehind : Option Nat
  references : List (Nat × Nat)
  uneven : Bool

abbrev Reader := EStateM Fault State

/-- How the characters of a part of a pattern are understood. -/
structure Flags where
  anyCase : Bool
  multiline : Bool
  dotAll : Bool
  verbose : Bool
  ascii : Bool

def Flags.plain : Flags := ⟨false, false, false, false, false⟩

/-- Which letters count as equal under the flags. -/
def Flags.fold (f : Flags) : Fold := if !f.anyCase then .none else if f.ascii then .ascii else .full

namespace Reader

variable {α : Type}

/-- The number of characters read. -/
def tell : Reader Nat := do
  let s ← get
  return s.whole.length - s.rest.length

/-- The fault of a problem at a place; the line is told if there are several. -/
def faultAt (whole : List Char) (p : Problem) (index : Nat) : Fault :=
  let place := Offset.within whole index
  let lines := if whole.contains '\n' then
      " (line " ++ toString place.line ++ ", column " ++ toString place.column ++ ")"
    else ""
  .pattern (p.message ++ " at position " ++ toString index ++ lines)

/-- A problem at a place. -/
def failAt (p : Problem) (index : Nat) : Reader α := do throw (faultAt (← get).whole p index)

/-- A problem so many characters before this place. -/
def fail (p : Problem) (back : Nat) : Reader α := do failAt p ((← tell) - back)

/-- Goes on by so many characters. A backslash may not be the last character. -/
def skip (n : Nat) : Reader Unit := do
  modify fun s => { s with rest := s.rest.drop n }
  let s ← get
  if s.rest = ['\\'] then failAt .escapeAtEnd (s.whole.length - 1)

/-- The first character of a text, together with the backslash before it. -/
def first? : List Char → Option (List Char)
  | [] => none
  | '\\' :: c :: _ => some ['\\', c]
  | c :: _ => some [c]

/-- The next character, together with the backslash before it. -/
def peek : Reader (Option (List Char)) := do return first? (← get).rest

/-- Reads the next character, together with the backslash before it. -/
def next : Reader (Option (List Char)) := do
  let t ← peek
  skip (t.getD []).length
  return t

/-- Reads the given character if it comes next. -/
def accept (c : Char) : Reader Bool := do
  if (← peek) = some [c] then
    let _ ← next
    return true
  else return false

/-- Reads at most `n` characters of a class. -/
def takeAtMost (p : Char → Bool) (n : Nat) : Reader (List Char) := do
  let cs := ((← get).rest.take n).takeWhile p
  skip cs.length
  return cs

/-- Reads a name up to its terminator. -/
def nameUntil (terminator : Char) (missing : Problem) : Nat → List Char → Reader (List Char)
  | 0, name => fail (.openName terminator) name.length
  | n + 1, name => do
    match ← next with
    | none => if name.isEmpty then fail missing 0 else fail (.openName terminator) name.length
    | some t =>
      if t = [terminator] then
        if name.isEmpty then fail missing 1 else return name
      else nameUntil terminator missing n (name ++ t)

/-- Reads the name of a group up to its terminator. -/
def rawName (terminator : Char) : Reader String := do
  return String.ofList (← nameUntil terminator .missingName ((← get).rest.length + 1) [])

/-- Reads the name of a group, which must be an identifier. -/
def groupName (terminator : Char) : Reader String := do
  let name ← rawName terminator
  if Text.isName name then return name else fail (.badName name) (name.length + 1)

/-! ### Groups -/

/-- Whether a group is complete. -/
def isClosed (n : Nat) : Reader Bool := do return ((← get).widths.lookup n).isSome

/-- Checks a reference inside a pattern that looks behind. -/
def checkLookbehind (n : Nat) : Reader Unit := do
  match (← get).lookbehind with
  | none => return ()
  | some first =>
    if !(← isClosed n) then fail .openReference 0
    if first ≤ n then fail .innerReference 0

/-- Begins a group and gives its number. -/
def openGroup (name : Option String) : Reader Nat := do
  let s ← get
  let n := s.groups
  set { s with groups := n + 1 }
  if let some x := name then
    match s.names.lookup x with
    | some m => fail (.redefinition x n m) (x.length + 1)
    | none => modify fun s => { s with names := s.names ++ [(x, n)] }
  return n

def closeGroup (n : Nat) (p : Pattern) : Reader Unit :=
  modify fun s => { s with widths := (n, p.width s.widths) :: s.widths }

/-! ### Characters -/

def isHex (c : Char) : Bool := c.isDigit || ('a' ≤ c && c ≤ 'f') || ('A' ≤ c && c ≤ 'F')

def isOctal (c : Char) : Bool := '0' ≤ c && c ≤ '7'

def digitValue (c : Char) : Nat := if c.isDigit then c.toNat - 48 else c.toLower.toNat - 87

def numberIn (base : Nat) (cs : List Char) : Nat := cs.foldl (fun n c => n * base + digitValue c) 0

/-- Reads the digits of an escaped code; `c` is the letter before them. -/
def hexEscape (c : Char) (digits : Nat) : Reader Nat := do
  let ds ← takeAtMost isHex digits
  let text := '\\' :: c :: ds
  if ds.length < digits then fail (.shortEscape (String.ofList text)) text.length
  else
    let n := numberIn 16 ds
    if 0x110000 ≤ n then fail (.badEscape (String.ofList text)) text.length else return n

/-- Reads the name of a character. -/
def namedEscape : Reader Nat := do
  if !(← accept '\x7b') then fail .missingBrace 0
  let name ← nameUntil '\x7d' .missingCharName ((← get).rest.length + 1) []
  match Text.CharName.code? (String.ofList name) with
  | some n => return n
  | none => fail (.unknownCharName (String.ofList name)) (name.length + 4)

/-- The characters that some letters stand for. -/
def controlCode? : Char → Option Nat
  | 'a' => some 7
  | 'b' => some 8
  | 'f' => some 12
  | 'n' => some 10
  | 'r' => some 13
  | 't' => some 9
  | 'v' => some 11
  | '\\' => some 92
  | _ => none

/-- The classes that some letters stand for. -/
def category? (ascii : Bool) : Char → Option CharTest
  | 'd' => some (.category .digit false ascii)
  | 'D' => some (.category .digit true ascii)
  | 's' => some (.category .blank false ascii)
  | 'S' => some (.category .blank true ascii)
  | 'w' => some (.category .word false ascii)
  | 'W' => some (.category .word true ascii)
  | _ => none

/-- The code of an escape that means the same everywhere: a number, or a character that is no
letter. -/
def commonEscape (c : Char) : Reader Nat := do
  match c with
  | 'x' => hexEscape c 2
  | 'u' => hexEscape c 4
  | 'U' => hexEscape c 8
  | 'N' => namedEscape
  | c => if c.isAlpha then fail (.badEscape (String.ofList ['\\', c])) 2 else return c.toNat

/-- Reads an escape inside a set. -/
def setEscape (flags : Flags) (c : Char) : Reader CharTest := do
  match controlCode? c, category? flags.ascii c with
  | some n, _ => return .code n
  | none, some t => return t
  | none, none =>
    if isOctal c then
      let text := c :: (← takeAtMost isOctal 2)
      let n := numberIn 8 text
      if 0o377 < n then fail (.octal (String.ofList ('\\' :: text))) (text.length + 1)
        else return .code n
    else if c.isDigit then fail (.badEscape (String.ofList ['\\', c])) 2
    else return .code (← commonEscape c)

/-- What a single test means as a pattern. -/
def single (flags : Flags) (t : CharTest) : Pattern := one ⟨false, [t], flags.fold⟩

/-- A part of a sequence, and whether it can be repeated. -/
inductive Piece where
  | plain (p : Pattern)
  | place (p : Pattern)
  | repeated (p : Pattern)
  | grouped (ps : List Pattern)

/-- The patterns of a piece. A group that changes nothing is the patterns in it. -/
def Piece.patterns : Piece → List Pattern
  | plain p | place p | repeated p => [p]
  | grouped ps => ps

/-- Patterns one after another. -/
def inOrder (ps : List Pattern) : Pattern := ps.foldr cat empty

/-- Reads the number of a group after its first digit; three octal digits are a code. -/
def numberedEscape (flags : Flags) (c : Char) : Reader Piece := do
  let more ← takeAtMost Char.isDigit 1
  let last ← if isOctal c && more.all isOctal && !more.isEmpty then takeAtMost isOctal 1
    else pure []
  let text := c :: more ++ last
  if !last.isEmpty then
    let n := numberIn 8 text
    if 0o377 < n then fail (.octal (String.ofList ('\\' :: text))) (text.length + 1)
    else return .plain (single flags (.code n))
  else
    let n := numberIn 10 text
    if n < (← get).groups then
      if !(← isClosed n) then fail .openReference (text.length + 1)
      checkLookbehind n
      return .plain (backref n flags.fold)
    else fail (.badReference n) text.length

/-- Reads an escape outside a set. -/
def escape (flags : Flags) (c : Char) : Reader Piece := do
  match c with
  | 'A' => return .place (anchor .textStart)
  | 'Z' => return .place (anchor .textEnd)
  | 'b' => return .place (anchor (.boundary true flags.ascii))
  | 'B' => return .place (anchor (.boundary false flags.ascii))
  | c =>
    match category? flags.ascii c, controlCode? c with
    | some t, _ => return .plain (single flags t)
    | none, some n => return .plain (single flags (.code n))
    | none, none =>
      if c = '0' then
        return .plain (single flags (.code (numberIn 8 (← takeAtMost isOctal 2))))
      else if c.isDigit then numberedEscape flags c
      else return .plain (single flags (.code (← commonEscape c)))

/-- One end of a range inside a set. -/
def setItem (flags : Flags) (t : List Char) : Reader CharTest := do
  match t with
  | '\\' :: c :: _ => setEscape flags c
  | c :: _ => return .code c.toNat
  | [] => return .code 0

/-- Reads the tests of a set up to its bracket; the set begins at `here`. -/
def setItems (flags : Flags) (here : Nat) : Nat → List CharTest → Reader (List CharTest)
  | 0, _ => failAt .openSet here
  | n + 1, tests => do
    match ← next with
    | none => failAt .openSet here
    | some this =>
      if this = [']'] && !tests.isEmpty then return tests
      let first ← setItem flags this
      if !(← accept '-') then setItems flags here n (tests ++ [first])
      else
        match ← next with
        | none => failAt .openSet here
        | some that =>
          if that = [']'] then return tests ++ [first, .code 45]
          let second ← setItem flags that
          match first, second with
          | .code least, .code greatest =>
            if least ≤ greatest then setItems flags here n (tests ++ [.range least greatest])
            else badRange this that
          | _, _ => badRange this that
where
  badRange (this that : List Char) : Reader (List CharTest) :=
    fail (.badRange (String.ofList (this ++ '-' :: that))) (this.length + 1 + that.length)

/-- Reads a set after its opening bracket. -/
def charSet (flags : Flags) : Reader Pattern := do
  let here := (← tell) - 1
  let negated ← accept '^'
  let tests ← setItems flags here ((← get).rest.length + 1) []
  return one ⟨negated, tests.eraseDups, flags.fold⟩

/-! ### Repetition -/

/-- Reads the bounds of a repetition after its opening brace; none if it is not one. -/
def bounds : Reader (Option (Nat × Option Nat)) := do
  let s ← get
  let here ← tell
  if s.rest.head? = some '\x7d' then return none
  let low ← takeAtMost Char.isDigit s.rest.length
  let comma ← accept ','
  let high ← if comma then takeAtMost Char.isDigit s.rest.length else pure low
  if !(← accept '\x7d') then
    set s
    return none
  let least := numberIn 10 low
  let most := if high.isEmpty then none else some (numberIn 10 high)
  if repeatLimit ≤ least || most.any (repeatLimit ≤ ·) then throw (.overflow .patternRepeat)
  if most.any (· < least) then failAt .repeatBounds here
  return some (least, most)

/-- Reads the sign after a sign of repetition. -/
def greed : Reader Greed := do
  if ← accept '?' then
    return .lazy
  if ← accept '+' then
    return .possessive
  return .greedy

/-- Repeats the last piece; the sign of repetition stands at `here`. -/
def repeatLast (here least : Nat) (most : Option Nat) : List Piece → Reader (List Piece)
  | [] | .place _ :: _ => failAt .nothingToRepeat here
  | .repeated _ :: _ => failAt .multipleRepeat here
  | .plain p :: ps => do
    return .repeated (times p least most (← greed)) :: ps
  | .grouped qs :: ps => do
    return .repeated (times (inOrder qs) least most (← greed)) :: ps

/-! ### Flags -/

def isFlag (c : Char) : Bool := "iLmsxatu".toList.contains c

def isTypeFlag (c : Char) : Bool := c = 'a' || c = 'L' || c = 'u'

/-- The problem of a character that is no flag. -/
def noFlag (t : List Char) (missing : Problem) : Problem :=
  match t with
  | [c] => if Text.isLetter c then .unknownFlag else missing
  | _ => missing

/-- Reads flags that are turned on, the first of which is `c`; gives them with what ends them. -/
def flagsOn : Nat → List Char → Char → Reader (List Char × Char)
  | 0, _, _ => fail .flagsEnd 0
  | n + 1, on, c => do
    if c = 'L' then fail .localeFlag 0
    if isTypeFlag c && on.any (fun d => isTypeFlag d && d ≠ c) then fail .incompatibleFlags 0
    let on := c :: on
    match ← next with
    | none => fail .flagsEnd 0
    | some t =>
      match t with
      | [d] =>
        if d = ')' || d = '-' || d = ':' then return (on, d)
        else if isFlag d then flagsOn n on d
        else fail (noFlag t .flagsEnd) 1
      | _ => fail .flagsEnd t.length

/-- Reads flags that are turned off, at least one, up to the colon. -/
def flagsOff : Nat → List Char → Reader (List Char)
  | 0, _ => fail .missingColon 0
  | n + 1, off => do
    let missing := if off.isEmpty then Problem.missingFlag else .missingColon
    match ← next with
    | none => fail missing 0
    | some t =>
      match t with
      | [d] =>
        if d = ':' && !off.isEmpty then return off
        else if isFlag d then
          if isTypeFlag d then fail .turnOffType 0
          flagsOff n (d :: off)
        else fail (noFlag t missing) 1
      | _ => fail missing t.length

/-- Reads the flags of a group whose first character is `c`, up to its colon; the group begins at
`start`. Flags for the whole pattern would have to stand at its very beginning. -/
def groupFlags (start : Nat) (flags : Flags) (c : Char) : Reader Flags := do
  let room := (← get).rest.length + 1
  let (on, ending) ← if c = '-' then pure ([], '-') else flagsOn room [] c
  if ending = ')' then failAt .globalFlags start
  if on.contains 't' then fail .turnOnGlobal 1
  let off ← if ending = '-' then flagsOff room [] else pure []
  if off.contains 't' then fail .turnOffGlobal 1
  if on.any off.contains then fail .onAndOff 1
  let change (now : Bool) (c : Char) : Bool := (now || on.contains c) && !off.contains c
  return { anyCase := change flags.anyCase 'i', multiline := change flags.multiline 'm',
           dotAll := change flags.dotAll 's', verbose := change flags.verbose 'x',
           ascii := on.contains 'a' || (flags.ascii && !on.contains 'u') }

/-! ### Structure -/

/-- How the parts in parentheses are read: with or without alternatives. -/
abbrev Inner := Bool → Flags → Reader (List Pattern)

/-- Reads the parenthesis that ends the group that begins at `start`. -/
def close (start : Nat) : Reader Unit := do
  if !(← accept ')') then failAt .openGroup start

/-- Reads a comment up to its parenthesis. -/
def comment (start : Nat) : Nat → Reader Unit
  | 0 => failAt .openComment start
  | n + 1 => do
    match ← next with
    | none => failAt .openComment start
    | some t => if t = [')'] then return () else comment start n

/-- Reads the rest of a pattern that looks ahead or behind. -/
def lookaround (inner : Inner) (flags : Flags) (start : Nat) (behind wanted : Bool) :
    Reader Piece := do
  let before := (← get).lookbehind
  if behind && before.isNone then
    modify fun s => { s with lookbehind := some s.groups }
  let p := inOrder (← inner true flags)
  if behind then
    modify fun s => { s with lookbehind := before }
  close start
  if behind then
    let w := p.width (← get).widths
    if w.least ≠ w.most then
      modify fun s => { s with uneven := true }
    return .plain (look (some w.least) wanted p)
  else return .plain (look none wanted p)

/-- Reads the number or name of the group on which a choice depends. -/
def condition : Reader Nat := do
  let name ← rawName ')'
  if Text.isName name then
    match (← get).names.lookup name with
    | some n => return n
    | none => fail (.unknownName name) (name.length + 1)
  else
    match Number.readInteger name with
    | .ok (.ofNat n) =>
      if n = 0 then fail .zeroReference (name.length + 1)
      else if Nat.pow 2 31 ≤ n then fail (.badReference n) (name.length + 1)
      else
        let here := (← tell) - name.length - 1
        modify fun s =>
          if (s.references.lookup n).isSome then s
            else { s with references := s.references ++ [(n, here)] }
        return n
    | _ => fail (.badName name) (name.length + 1)

/-- Reads a choice between two patterns. -/
def choosing (inner : Inner) (flags : Flags) (start : Nat) : Reader Piece := do
  let n ← condition
  checkLookbehind n
  let yes := inOrder (← inner false flags)
  let no ← if ← accept '|' then
      let no := inOrder (← inner false flags)
      if (← peek) = some ['|'] then fail .branches 0
      pure no
    else pure empty
  close start
  return .plain (choice n yes no)

/-- Reads the rest of a group that captures what it matches. -/
def capturing (inner : Inner) (flags : Flags) (start : Nat) (name : Option String) :
    Reader Piece := do
  let n ← openGroup name
  let p := inOrder (← inner true flags)
  close start
  closeGroup n p
  return .plain (group n p)

/-- Reads the rest of a group that captures nothing. -/
def grouping (inner : Inner) (flags : Flags) (start : Nat) : Reader (List Pattern) := do
  let ps ← inner true flags
  close start
  return ps

/-- Reads what comes after the question mark and the `P` of a group. -/
def named (inner : Inner) (flags : Flags) (start : Nat) : Reader Piece := do
  if ← accept '<' then
    let name ← groupName '>'
    capturing inner flags start (some name)
  else if ← accept '=' then
    let name ← groupName ')'
    match (← get).names.lookup name with
    | none => fail (.unknownName name) (name.length + 1)
    | some n =>
      if !(← isClosed n) then fail .openReference (name.length + 1)
      checkLookbehind n
      return .plain (backref n flags.fold)
  else
    match ← next with
    | none => fail .endOfPattern 0
    | some t => fail (.unknownExtension ("P" ++ String.ofList t)) (t.length + 2)

/-- Reads a group after its question mark; none for a comment. -/
def extended (inner : Inner) (flags : Flags) (start : Nat) : Reader (Option Piece) := do
  match ← next with
  | none => fail .endOfPattern 0
  | some ['P'] => named inner flags start
  | some [':'] => return some (.grouped (← grouping inner flags start))
  | some ['>'] => return some (.plain (atomic (inOrder (← grouping inner flags start))))
  | some ['#'] =>
    comment start ((← get).rest.length + 1)
    return none
  | some ['='] => lookaround inner flags start false true
  | some ['!'] => lookaround inner flags start false false
  | some ['<'] =>
    match ← next with
    | none => fail .endOfPattern 0
    | some ['='] => lookaround inner flags start true true
    | some ['!'] => lookaround inner flags start true false
    | some t => fail (.unknownExtension ("<" ++ String.ofList t)) (t.length + 2)
  | some ['('] => choosing inner flags start
  | some [c] =>
    if isFlag c || c = '-' then
      let flags ← groupFlags start flags c
      return some (.plain (inOrder (← grouping inner flags start)))
    else fail (.unknownExtension c.toString) 2
  | some t => fail (.unknownExtension (String.ofList t)) (t.length + 1)

/-- Reads a comment in a pattern in which blanks do not count. -/
def skipLine : Nat → Reader Unit
  | 0 => return ()
  | n + 1 => do
    match ← next with
    | none => return ()
    | some t => if t = ['\n'] then return () else skipLine n

/-- The patterns of pieces, the last of which comes first. -/
def joined (ps : List Piece) : List Pattern := ps.reverse.flatMap Piece.patterns

/-- Puts a piece, if there is one, after the others. -/
def more (ps : List Piece) : Option Piece → List Piece
  | some p => p :: ps
  | none => ps

/-- Reads what begins with the character `t`, after the pieces `ps`. -/
def piece (inner : Inner) (flags : Flags) (ps : List Piece) (t : List Char) :
    Reader (List Piece) := do
  let here := (← tell) - 1
  match t with
  | [] => return ps
  | [c] =>
    match c with
    | '[' => return .plain (← charSet flags) :: ps
    | '?' => repeatLast here 0 (some 1) ps
    | '*' => repeatLast here 0 none ps
    | '+' => repeatLast here 1 none ps
    | '\x7b' =>
      match ← bounds with
      | some (least, most) => repeatLast here least most ps
      | none => return .plain (single flags (.code 0x7b)) :: ps
    | '.' => return .plain (one ⟨true, if flags.dotAll then [] else [.code 10], .none⟩) :: ps
    | '^' => return .place (anchor (if flags.multiline then .lineStart else .textStart)) :: ps
    | '$' => return .place (anchor (if flags.multiline then .lineEnd else .finalEnd)) :: ps
    | '(' =>
      if ← accept '?' then return more ps (← extended inner flags here)
      else return (← capturing inner flags here none) :: ps
    | c => return .plain (single flags (.code c.toNat)) :: ps
  | _ :: c :: _ => return (← escape flags c) :: ps

/-- Reads pieces up to the end of the pattern, a bar or a closing parenthesis. -/
def sequence (inner : Inner) (flags : Flags) : Nat → List Piece → Reader (List Pattern)
  | 0, ps => return joined ps
  | n + 1, ps => do
    match ← peek with
    | none | some ['|'] | some [')'] => return joined ps
    | some t =>
      let _ ← next
      if flags.verbose && t.all Text.isAsciiBlank then sequence inner flags n ps
      else if flags.verbose && t = ['#'] then
        skipLine ((← get).rest.length + 1)
        sequence inner flags n ps
      else sequence inner flags n (← piece inner flags ps t)

/-- Whether two patterns are the same character, place or reference. -/
def sameStart : Pattern → Pattern → Bool
  | one s, one t => s = t
  | anchor a, anchor b => a = b
  | backref m f, backref n g => m = n && f = g
  | _, _ => false

/-- Takes what all alternatives begin with out of them. -/
def commonStart : Nat → List (List Pattern) → List Pattern × List (List Pattern)
  | n + 1, (p :: ps) :: rest =>
    if rest.all (fun qs => qs.head?.any (sameStart p)) then
      let (start, ends) := commonStart n (ps :: rest.map List.tail)
      (p :: start, ends)
    else ([], (p :: ps) :: rest)
  | _, items => ([], items)

/-- The tests of an alternative that is one character. -/
def singleTests? : List Pattern → Option (List CharTest)
  | [one s] => if s.negated then none else some s.tests
  | _ => none

/-- One of several alternatives. If all are single characters, it is a set. -/
def oneOf (flags : Flags) (items : List (List Pattern)) : Pattern :=
  match items.mapM singleTests? with
  | some tests => one ⟨false, tests.flatten.eraseDups, flags.fold⟩
  | none => alternativesOf items
where
  alternativesOf : List (List Pattern) → Pattern
    | [] => empty
    | [ps] => inOrder ps
    | ps :: rest => alt (inOrder ps) (alternativesOf rest)

/-- Reads alternatives with bars between them. -/
def branches (inner : Inner) (flags : Flags) : Nat → Reader (List (List Pattern))
  | 0 => return []
  | n + 1 => do
    let ps ← sequence inner flags ((← get).rest.length + 1) []
    if ← accept '|' then return ps :: (← branches inner flags n) else return [ps]

/-- Reads alternatives and joins them. -/
def alternatives (inner : Inner) (flags : Flags) (room : Nat) : Reader (List Pattern) := do
  match ← branches inner flags room with
  | [ps] => return ps
  | items =>
    let (start, ends) := commonStart room items
    return start ++ [oneOf flags ends]

/-- Reads a pattern with at most so many parentheses inside each other. -/
def level : Nat → Inner
  | 0, _, _ => throw .depth
  | depth + 1, several, flags => do
    let room := (← get).rest.length + 1
    if several then alternatives (level depth) flags room else sequence (level depth) flags room []

/-- Reads a whole pattern. -/
def full : Reader Pattern := do
  skip 0
  let p := inOrder (← level ((← get).rest.length + 1) true Flags.plain)
  let s ← get
  if !s.rest.isEmpty then fail .unbalanced 0
  match s.references.find? fun r => s.groups ≤ r.1 with
  | some (n, here) => failAt (.badReference n) here
  | none =>
    if s.uneven then throw (.pattern "look-behind requires fixed-width pattern")
    return p

end Reader

/-- A pattern with the names of its groups, in their order. -/
structure Named where
  pattern : Pattern
  names : List (String × Nat)
  deriving Inhabited

/-- Reads a pattern. -/
def read (s : String) : Except Fault Named :=
  match Reader.full ⟨s.toList, s.toList, 1, [], [], none, [], false⟩ with
  | .ok p s => .ok ⟨p, s.names⟩
  | .error e _ => .error e

/-- Matches at the beginning of a text and gives what the named groups matched. -/
def Named.match? (p : Named) (s : String) : Option (List (String × Option String)) :=
  (p.pattern.match? s).map fun place =>
    p.names.map fun (name, n) => (name, (place.captured? n).map String.ofList)

end FloScript.Pattern
