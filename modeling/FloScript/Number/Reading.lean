import FloScript.Number.Dyadic
import FloScript.Text.Blank
import FloScript.Text.Numeral

/-! Numbers read from text. Digits of every script count, single underscores may stand between
digits, and blanks may stand around the number. -/
namespace FloScript.Number

open FloScript.Text

/-- Why a text is not read as an integer. -/
inductive IntegerFault where
  | malformed
  | tooLong (digits : Nat)
  deriving DecidableEq, Repr

/-- The greatest number of digits an integer may have when it is read or written. -/
def digitLimit : Nat := 4300

/-- Characters of other scripts in their ASCII form: digits by value, blanks as a space, and
anything else as a sign that no number has. Control characters of ASCII are kept. -/
def asciiForm (c : Char) : Char :=
  if c.toNat < 127 then c
  else if isBlank c then ' '
  else
    match decimalValue? c with
    | some d => Char.ofNat (48 + d)
    | none => '?'

/-- A text in ASCII form. -/
def asciiText (s : String) : List Char :=
  if s.toList.all isAscii then s.toList else s.toList.map asciiForm

/-- The sign in front of a number, and what follows it. -/
def takeSign : List Char → Bool × List Char
  | '+' :: cs => (false, cs)
  | '-' :: cs => (true, cs)
  | cs => (false, cs)

/-- Whether each underscore stands between two digits. -/
def underscoresBetween (before : Bool) : List Char → Bool
  | [] => true
  | '_' :: cs => before && cs.head?.any Char.isDigit && underscoresBetween false cs
  | c :: cs => underscoresBetween c.isDigit cs

/-- The value of a run of digits; underscores are skipped. -/
def digitsValue (cs : List Char) : Nat :=
  cs.foldl (fun n c => if c.isDigit then 10 * n + (c.toNat - 48) else n) 0

/-- Reads an integer in base ten. Its length is checked before what follows it. -/
def readInteger (s : String) : Except IntegerFault Int :=
  let (negative, cs) := takeSign ((asciiText s).dropWhile isAsciiBlank)
  let inNumber (c : Char) : Bool := c.isDigit || c = '_'
  let run := cs.takeWhile inNumber
  let digits := run.countP Char.isDigit
  if run.isEmpty || !underscoresBetween false run then .error .malformed
  else if digits > digitLimit then .error (.tooLong digits)
  else if !((cs.dropWhile inNumber).dropWhile isAsciiBlank).isEmpty then .error .malformed
  else
    let n : Int := digitsValue run
    .ok (if negative then -n else n)

/-- The float nearest to `m * 10 ^ e`. Exponents far outside the range of floats are not worked
out. -/
def ofDecimal (negative : Bool) (m : Nat) (e : Int) : Float :=
  let size := (m.log2 : Int) * 30103 / 100000
  if m = 0 then ofMagnitude negative 0
  else if size + e > 400 then ofMagnitude negative (2047 * Nat.pow 2 52)
  else if size + e < -400 then ofMagnitude negative 0
  else if 0 ≤ e then nearest negative (m * Nat.pow 10 e.toNat) 1
  else nearest negative m (Nat.pow 10 (-e).toNat)

/-- The exponent part of a number, which must be all that is left. -/
def readExponent : List Char → Option Int
  | [] => some 0
  | c :: cs =>
    if c = 'e' || c = 'E' then
      let (negative, ds) := takeSign cs
      if ds.isEmpty || !ds.all Char.isDigit then none
      else
        let n : Int := digitsValue ds
        some (if negative then -n else n)
    else none

/-- A number in decimal notation, after its sign. -/
def readMagnitude (negative : Bool) (cs : List Char) : Option Float :=
  let whole := cs.takeWhile Char.isDigit
  let rest := cs.dropWhile Char.isDigit
  let (fraction, tail) :=
    match rest with
    | '.' :: ds => (ds.takeWhile Char.isDigit, ds.dropWhile Char.isDigit)
    | ds => ([], ds)
  if whole.isEmpty && fraction.isEmpty then none
  else
    (readExponent tail).map fun e =>
      ofDecimal negative (digitsValue (whole ++ fraction)) (e - fraction.length)

/-- Reads a float: decimal notation with an optional exponent, or the name of an infinity or of the
value that is not a number, in small or capital letters. -/
def readFloat (s : String) : Option Float :=
  let cs := trimBy isAsciiBlank (asciiText s)
  let (negative, rest) := takeSign cs
  let name := String.ofList (rest.map Char.toLower)
  if name = "inf" || name = "infinity" then some (ofMagnitude negative (2047 * Nat.pow 2 52))
  else if name = "nan" then some (0.0 / 0.0)
  else if !underscoresBetween false rest then none
  else readMagnitude negative (rest.filter (· ≠ '_'))

end FloScript.Number
