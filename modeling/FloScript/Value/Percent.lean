import FloScript.Machine
import FloScript.Value.Display

/-! Texts with directives: `%` and a letter stand for a value, with flags, a width and a precision
between them. -/
namespace FloScript.Percent

/-- What a directive says besides its letter. -/
structure Layout where
  left : Bool := false
  plus : Bool := false
  space : Bool := false
  alternate : Bool := false
  zero : Bool := false
  width : Nat := 0
  precision : Option Nat := none

/-- What is still to be read: the text and the values for it. -/
structure Input where
  rest : List Char
  arguments : List Value

abbrev Reader := StateT Input (Except Fault)

def fail {α : Type} (f : Fault) : Reader α := throw f

/-- The next character of a directive. -/
def next : Reader Char := do
  match (← get).rest with
  | [] => fail (.value .incompleteFormat)
  | c :: cs =>
    modify fun i => { i with rest := cs }
    return c

/-- The next character of a directive, left in place. -/
def peek : Reader Char := do
  match (← get).rest with
  | [] => fail (.value .incompleteFormat)
  | c :: _ => return c

/-- The next value. -/
def argument : Reader Value := do
  match (← get).arguments with
  | [] => fail (.type .missingArguments)
  | v :: vs =>
    modify fun i => { i with arguments := vs }
    return v

/-- The next value, which must be an integer that fits into a word of the given name and bits. -/
def starArgument (word : String) (bits : Nat) : Reader Int := do
  match (← argument).integer? with
  | none => fail (.type .starWidth)
  | some i =>
    let bound := Nat.pow 2 bits
    if -(bound : Int) ≤ i ∧ i < bound then return i else fail (.overflow (.machineWord word))

/-- The characters up to the parenthesis that closes an open one, and the rest. -/
def closing : Nat → List Char → Option (List Char × List Char)
  | _, [] => none
  | depth, c :: cs =>
    if c = ')' && depth = 0 then some ([], cs)
    else
      let depth := if c = ')' then depth - 1 else if c = '(' then depth + 1 else depth
      (closing depth cs).map fun (key, rest) => (c :: key, rest)

/-- The value of a key in what stands right of the operator. -/
def keyed (ss : Scopes) (source : Value) (key : String) : Except Fault Value :=
  match source.entries? ss with
  | some es =>
    match es.find? fun e => match e.1 with | .text s => s = key | _ => false with
    | some e => .ok e.2
    | none => .error (.missingKey (Text.quote key))
  | none =>
    match source with
    | .list _ => .error (.type (.textIndex "list"))
    | _ => .error (.type .mappingRequired)

/-- Reads a key in parentheses, whose value is then the only one. -/
def readKey (ss : Scopes) (source : Value) : Reader Unit := do
  match (← get).rest with
  | '(' :: cs =>
    match source with
    | .list _ | .dict _ | .bindings _ =>
      match closing 0 cs with
      | none => fail (.value .incompleteKey)
      | some (key, rest) =>
        let v ← keyed ss source (String.ofList key)
        set (Input.mk rest [v])
    | _ => fail (.type .mappingRequired)
  | _ => return ()

def isFlag (c : Char) : Bool := "-+ #0".toList.contains c

/-- Reads characters of a class. -/
def takeWhile (p : Char → Bool) : Reader (List Char) := do
  let cs := (← get).rest
  modify fun i => { i with rest := cs.dropWhile p }
  return cs.takeWhile p

/-- Reads a number that is at most `limit`. -/
def readNumber (limit : Nat) (tooBig : Fault) : Reader Nat := do
  let n := Number.digitsValue (← takeWhile Char.isDigit)
  if limit < n then fail tooBig else return n

/-- Reads flags, width and precision. -/
def readLayout : Reader Layout := do
  let flags ← takeWhile isFlag
  let mut layout : Layout :=
    { left := flags.contains '-', plus := flags.contains '+', space := flags.contains ' ',
      alternate := flags.contains '#', zero := flags.contains '0' }
  if (← peek) = '*' then
    let _ ← next
    let w ← starArgument "ssize_t" 63
    layout := { layout with left := layout.left || decide (w < 0), width := w.natAbs }
  else
    layout := { layout with width := ← readNumber (Nat.pow 2 63 - 1) (.value .widthTooBig) }
  if (← peek) = '.' then
    let _ ← next
    if (← peek) = '*' then
      let _ ← next
      layout := { layout with precision := some (← starArgument "int" 31).toNat }
    else
      layout :=
        { layout with
          precision := some (← readNumber (Nat.pow 2 31 - 1) (.value .precisionTooBig)) }
  if "hlL".toList.contains (← peek) then
    let _ ← next
  return layout

/-- Fills a text up to the width with blanks. -/
def Layout.pad (l : Layout) (body : List Char) : String :=
  let fill := List.replicate (l.width - body.length) ' '
  String.ofList (if l.left then body ++ fill else fill ++ body)

/-- Writes a number from its parts: sign, mark of the base, digits. Zeros go between the mark and
the digits, blanks outside. -/
def Layout.padNumber (l : Layout) (negative : Bool) (mark digits : List Char) : String :=
  let sign := if negative then ['-'] else if l.plus then ['+'] else if l.space then [' '] else []
  if l.zero && !l.left then
    let zeros := List.replicate (l.width - (sign ++ mark ++ digits).length) '0'
    String.ofList (sign ++ mark ++ zeros ++ digits)
  else l.pad (sign ++ mark ++ digits)

/-- Writes a text, cut to the precision. -/
def Layout.putText (l : Layout) (s : String) : String :=
  l.pad (match l.precision with
    | some n => s.toList.take n
    | none => s.toList)

/-- The greatest precision of an integer. -/
def integerPrecision : Nat := Nat.pow 2 31 - 4

/-- Writes an integer: the digits of its magnitude are filled up with zeros to the precision. -/
def Layout.putInteger (l : Layout) (mark : List Char) (negative : Bool) (digits : List Char) :
    Except Fault String :=
  let precision := l.precision.getD 0
  let zeros := List.replicate (precision - digits.length) '0'
  if integerPrecision < precision then .error (.overflow .precisionTooLarge)
  else .ok (l.padNumber negative (if l.alternate then mark else []) (zeros ++ digits))

/-- Writes a float. -/
def Layout.putFloat (l : Layout) (style : Number.Style) (capital : Bool) (x : Float) : String :=
  let precision := l.precision.getD 6
  l.padNumber (!x.isNaN && Number.signBit x) []
    (Number.styledText style capital l.alternate precision x).toList

/-- A value as an integer for a directive that drops fractions. -/
def wholeOf (letter : Char) (v : Value) : Except Fault Int :=
  match v.num? with
  | some x => x.truncate
  | none => .error (.type (.realRequired letter v.typeName))

/-- A value as an integer for a directive that takes nothing else. -/
def integerOf (letter : Char) (v : Value) : Except Fault Int :=
  match v.integer? with
  | some i => .ok i
  | none => .error (.type (.integerRequired letter v.typeName))

/-- A value as a float. -/
def floatOf (v : Value) : Except Fault Float :=
  match v.num? with
  | some x => x.toFloat
  | none => .error (.type (.realNumber v.typeName))

/-- A value as a character. -/
def charOf (v : Value) : Except Fault Char :=
  match v with
  | .text s =>
    match s.toList with
    | [c] => .ok c
    | _ => .error (.type .charRequired)
  | v =>
    match v.integer? with
    | none => .error (.type .charRequired)
    | some i =>
      if 0 ≤ i ∧ i < 0x110000 then .ok (Char.ofNat i.toNat) else .error (.overflow .charRange)

/-- Writes a value as the letter of a directive says; `index` is the place of the letter. -/
def Layout.put (l : Layout) (ss : Scopes) (letter : Char) (index : Nat) (v : Value) :
    Except Fault String :=
  match letter with
  | 's' => do return l.putText (← v.display ss)
  | 'r' => do return l.putText (← v.quoted ss)
  | 'a' => do return l.putText (Text.escapeNonAscii (← v.quoted ss))
  | 'd' | 'i' | 'u' => do
    let i ← wholeOf letter v
    let _ ← integerText i
    l.putInteger [] (i < 0) (Number.digitsOf i.natAbs)
  | 'o' => do
    let i ← integerOf letter v
    l.putInteger ['0', 'o'] (i < 0) (Nat.toDigits 8 i.natAbs)
  | 'x' => do
    let i ← integerOf letter v
    l.putInteger ['0', 'x'] (i < 0) (Nat.toDigits 16 i.natAbs)
  | 'X' => do
    let i ← integerOf letter v
    l.putInteger ['0', 'X'] (i < 0) ((Nat.toDigits 16 i.natAbs).map Char.toUpper)
  | 'e' => do return l.putFloat .scientific false (← floatOf v)
  | 'E' => do return l.putFloat .scientific true (← floatOf v)
  | 'f' => do return l.putFloat .fixed false (← floatOf v)
  | 'F' => do return l.putFloat .fixed true (← floatOf v)
  | 'g' => do return l.putFloat .general false (← floatOf v)
  | 'G' => do return l.putFloat .general true (← floatOf v)
  | 'c' => do return l.pad [← charOf v]
  | c => .error (.value (.unsupportedConversion c index))

/-- Reads one directive, after its `%`, and gives its text. -/
def directive (ss : Scopes) (source : Value) (total : Nat) : Reader String := do
  if (← get).rest.head? = some '%' then
    let _ ← next
    return "%"
  readKey ss source
  let layout ← readLayout
  let letter ← next
  let index := total - (← get).rest.length - 1
  let v ← argument
  layout.put ss letter index v

/-- Reads a text of at most `n` pieces and gives the texts that stand for them. -/
def pieces (ss : Scopes) (source : Value) (total : Nat) : Nat → Reader (List String)
  | 0 => return []
  | n + 1 => do
    match (← get).rest with
    | [] => return []
    | '%' :: cs =>
      modify fun i => { i with rest := cs }
      let s ← directive ss source total
      return s :: (← pieces ss source total n)
    | _ =>
      let cs ← takeWhile (· ≠ '%')
      return String.ofList cs :: (← pieces ss source total n)

/-- The values that stand right of the operator. -/
def argumentsOf : Value → List Value
  | .tuple items => items
  | v => [v]

/-- Whether values may be left over. -/
def isMapping : Value → Bool
  | .list _ | .dict _ | .bindings _ => true
  | _ => false

/-- A text with its directives replaced by what stands right of the operator. -/
def format (ss : Scopes) (s : String) (source : Value) : Except Fault String := do
  let cs := s.toList
  let (texts, left) ← (pieces ss source cs.length cs.length).run ⟨cs, argumentsOf source⟩
  if left.arguments.isEmpty || isMapping source then return String.join texts
  else throw (.type .leftoverArguments)

end FloScript.Percent
