import FloScript.Number.Dyadic

/-! The shortest decimal of a float: the fewest digits that read back as the same float, and among
those the ones nearest to its exact value. -/
namespace FloScript.Number

/-- The number `digits * 10 ^ exponent`. -/
structure Decimal where
  digits : Nat
  exponent : Int
  deriving DecidableEq, Repr

/-- A fraction scaled by a power of ten, as a numerator and a denominator. -/
def scale10 (num den : Nat) (s : Int) : Nat × Nat :=
  if 0 ≤ s then (num * Nat.pow 10 s.toNat, den) else (num, den * Nat.pow 10 (-s).toNat)

/-- The least exponent `k` with `num / den < 10 ^ k`, for a positive fraction. A binary logarithm
gives it up to one step. -/
def decimalPlace (num den : Nat) : Int :=
  let guess := ((num.log2 : Int) - den.log2) * 30103 / 100000
  let below (k : Int) : Bool :=
    let (a, b) := scale10 num den (-k)
    a < b
  if below (guess - 1) then guess - 1
  else if below guess then guess
  else if below (guess + 1) then guess + 1
  else guess + 2

/-- A decimal without trailing zeros in its digits, for a positive one. -/
def Decimal.strip : Nat → Decimal → Decimal
  | 0, d => d
  | n + 1, d =>
    if d.digits % 10 = 0 && d.digits ≠ 0 then Decimal.strip n ⟨d.digits / 10, d.exponent + 1⟩ else d

/-- The interval of the reals that round to `m * 2 ^ q`, all times four: its ends and the value,
over one denominator. The lower neighbour of a power of two is nearer than the upper one. -/
structure Rounding where
  low : Nat
  value : Nat
  high : Nat
  den : Nat
  closed : Bool

def Rounding.of (m : Nat) (q : Int) : Rounding :=
  let lower := if m = Nat.pow 2 52 && q > -1074 then 4 * m - 1 else 4 * m - 2
  let f := if 0 ≤ q then Nat.pow 2 q.toNat else 1
  let den := if 0 ≤ q then 4 else 4 * Nat.pow 2 (-q).toNat
  ⟨lower * f, 4 * m * f, (4 * m + 2) * f, den, m % 2 = 0⟩

/-- Whether the decimal `c * 10 ^ s` rounds to the value. -/
def Rounding.holds (r : Rounding) (c : Nat) (s : Int) : Bool :=
  let (x, d) := scale10 (c * r.den) 1 s
  let low := r.low * d
  let high := r.high * d
  if r.closed then low ≤ x && x ≤ high else low < x && x < high

/-- The decimal with the given last place that rounds to the value and is nearest to it, if there is
one. -/
def Rounding.at? (r : Rounding) (s : Int) : Option Decimal :=
  let (num, den) := scale10 r.value r.den (-s)
  let c := num / den
  let rest := num % den
  let down := r.holds c s && c ≠ 0
  let up := r.holds (c + 1) s
  if down && up then
    some ⟨if 2 * rest > den || (2 * rest = den && c % 2 = 1) then c + 1 else c, s⟩
  else if down then some ⟨c, s⟩
  else if up then some ⟨c + 1, s⟩
  else none

/-- The shortest decimal that rounds to the positive number `m * 2 ^ q`. Seventeen digits always
suffice. -/
def shortest (m : Nat) (q : Int) : Decimal :=
  let r := Rounding.of m q
  let k := decimalPlace r.value r.den
  let found := (List.range 17).findSome? fun (n : Nat) => r.at? (k - (n + 1))
  Decimal.strip 400 (found.getD ⟨0, 0⟩)

end FloScript.Number
