import FloScript.Number.Shortest

/-! Decimal notation of floats: the plain notation of a number, and the fixed, scientific and
general notations with a chosen number of places. -/
namespace FloScript.Number

/-- The decimal digits of a natural number. -/
def digitsOf (n : Nat) : List Char := Nat.toDigits 10 n

/-- The decimal digits, with zeros in front up to a width. -/
def paddedDigits (width n : Nat) : List Char :=
  let ds := digitsOf n
  List.replicate (width - ds.length) '0' ++ ds

/-- An exponent with its sign and at least two digits. -/
def exponentText (mark : Char) (e : Int) : List Char :=
  mark :: (if e < 0 then '-' else '+') :: paddedDigits 2 e.natAbs

/-- Digits with a point after the first `k` of them; the point is left out if nothing follows it,
unless it is wanted. -/
def pointed (point : Bool) (k : Nat) (ds : List Char) : List Char :=
  let tail := ds.drop k
  ds.take k ++ if tail.isEmpty && !point then [] else '.' :: tail

/-- The plain notation of a decimal: positional for numbers from 10 ^ -4 up to 10 ^ 16, where a
whole number keeps one zero after the point, and scientific elsewhere. -/
def plain (d : Decimal) : List Char :=
  let ds := digitsOf d.digits
  let place : Int := ds.length + d.exponent
  if -4 < place && place ≤ 16 then
    if place ≤ 0 then '0' :: '.' :: (List.replicate (-place).toNat '0' ++ ds)
    else if (ds.length : Int) ≤ place then
      ds ++ List.replicate (place - ds.length).toNat '0' ++ ['.', '0']
    else pointed false place.toNat ds
  else pointed false 1 ds ++ exponentText 'e' (place - 1)

/-- The names of the values that are not finite numbers. -/
structure Names where
  infinity : String
  nan : String

/-- The text of a float with a writer for positive finite ones and one text for zero. -/
def textWith (names : Names) (zero : List Char) (write : Nat → Int → List Char) (x : Float) :
    String :=
  let minus := if signBit x then ['-'] else []
  match Dyadic.ofFloat? x with
  | some d => String.ofList (minus ++ if d.mantissa = 0 then zero else write d.mantissa d.exponent)
  | none => if x.isNaN then names.nan else String.ofList minus ++ names.infinity

/-- The text of a float: the shortest decimal in plain notation. -/
def floatText (x : Float) : String :=
  textWith ⟨"inf", "nan"⟩ ['0', '.', '0'] (fun m q => plain (shortest m q)) x

/-- The notations with a chosen number of places. -/
inductive Style where
  | fixed
  | scientific
  | general
  deriving DecidableEq, Repr

/-- Significant digits and decimal exponent of a positive fraction rounded to `n + 1` digits. -/
def significant (n : Nat) (num den : Nat) : Nat × Int :=
  let e := decimalPlace num den - 1
  let (a, b) := scale10 num den (n - e)
  let c := roundDiv a b
  if c = Nat.pow 10 (n + 1) then (Nat.pow 10 n, e + 1) else (c, e)

/-- Digits after a point without their trailing zeros, and without the point if none is left. -/
def dropZeros (ds : List Char) : List Char :=
  if ds.contains '.' then
    match ds.reverse.dropWhile (· = '0') with
    | '.' :: rest => rest.reverse
    | rest => rest.reverse
  else ds

/-- A fraction with exactly `places` digits after the point, the last one rounded. -/
def fixedText (point : Bool) (places num den : Nat) : List Char :=
  let (a, b) := scale10 num den places
  let ds := paddedDigits (places + 1) (roundDiv a b)
  pointed point (ds.length - places) ds

/-- A fraction as one digit, `places` digits after the point, and an exponent. -/
def scientificText (point : Bool) (mark : Char) (places num den : Nat) : List Char :=
  let (c, e) := if num = 0 then (0, 0) else significant places num den
  pointed point 1 (paddedDigits (places + 1) c) ++ exponentText mark e

/-- A fraction with `digits` significant digits: fixed notation for exponents from -4 up to that
count, scientific elsewhere, without trailing zeros unless the full form is wanted. -/
def generalText (full : Bool) (mark : Char) (digits num den : Nat) : List Char :=
  let p := max digits 1
  let e : Int := if num = 0 then 0 else (significant (p - 1) num den).2
  if -4 ≤ e && e < p then
    let ds := fixedText full (p - 1 - e).toNat num den
    if full then ds else dropZeros ds
  else
    let (c, x) := significant (p - 1) num den
    let ds := pointed full 1 (paddedDigits p c)
    (if full then ds else dropZeros ds) ++ exponentText mark x

/-- The magnitude of a float in one of the notations; `full` keeps the point and, in the general
notation, the trailing zeros. -/
def styledText (style : Style) (capital full : Bool) (places : Nat) (x : Float) : String :=
  let mark := if capital then 'E' else 'e'
  let write (num den : Nat) : List Char :=
    match style with
    | .fixed => fixedText full places num den
    | .scientific => scientificText full mark places num den
    | .general => generalText full mark places num den
  let names : Names := if capital then ⟨"INF", "NAN"⟩ else ⟨"inf", "nan"⟩
  match Dyadic.ofFloat? x with
  | some d => String.ofList (write d.ratio.1 d.ratio.2)
  | none => if x.isNaN then names.nan else names.infinity

end FloScript.Number
