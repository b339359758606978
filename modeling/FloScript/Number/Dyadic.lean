/-! Exact arithmetic on floats. A finite float is a signed natural number times a power of two, and
every rational number has a nearest float, with ties going to the even neighbour. -/
namespace FloScript.Number

/-- A quotient rounded to the nearest natural number, ties to the even one. -/
def roundDiv (num den : Nat) : Nat :=
  let q := num / den
  let r := num % den
  if 2 * r > den || (2 * r = den && q % 2 = 1) then q + 1 else q

/-- The number `mantissa * 2 ^ exponent` with a sign. -/
structure Dyadic where
  negative : Bool
  mantissa : Nat
  exponent : Int
  deriving DecidableEq, Repr

namespace Dyadic

/-- The exact value of a float, if it is finite. -/
def ofFloat? (x : Float) : Option Dyadic :=
  let bits := x.toBits.toNat
  let field : Nat := bits / Nat.pow 2 52 % Nat.pow 2 11
  let fraction : Nat := bits % Nat.pow 2 52
  let negative := decide (Nat.pow 2 63 ≤ bits)
  if field = 2047 then none
  else if field = 0 then some ⟨negative, fraction, -1074⟩
  else some ⟨negative, fraction + Nat.pow 2 52, (field : Int) - 1075⟩

/-- The absolute value as a fraction: a numerator and a positive denominator. -/
def ratio (d : Dyadic) : Nat × Nat :=
  if 0 ≤ d.exponent then (d.mantissa * Nat.pow 2 d.exponent.toNat, 1)
  else (d.mantissa, Nat.pow 2 (-d.exponent).toNat)

/-- The integer between zero and the value that lies nearest to the value. -/
def truncate (d : Dyadic) : Int :=
  let (num, den) := d.ratio
  let n : Int := (num / den : Nat)
  if d.negative then -n else n

/-- How an integer compares with the value. -/
def compareInt (i : Int) (d : Dyadic) : Ordering :=
  let (num, den) := d.ratio
  let n : Int := if d.negative then -(num : Int) else num
  compare (i * den) n

end Dyadic

/-- The float of the given sign with the given magnitude bits; magnitudes past the greatest finite
one are infinite. -/
def ofMagnitude (negative : Bool) (magnitude : Nat) : Float :=
  let m := min magnitude (2047 * Nat.pow 2 52)
  Float.ofBits (m + if negative then Nat.pow 2 63 else 0 : Nat).toUInt64

/-- The greatest power of two, as an exponent, that does not exceed the positive fraction `num /
den`. -/
def floorLog2 (num den : Nat) : Int :=
  let e : Int := (num.log2 : Int) - den.log2
  let below : Bool :=
    if 0 ≤ e then num < den * Nat.pow 2 e.toNat else num * Nat.pow 2 (-e).toNat < den
  if below then e - 1 else e

/-- The float nearest to `num / den` with the given sign. -/
def nearest (negative : Bool) (num den : Nat) : Float :=
  if num = 0 then ofMagnitude negative 0
  else
    let q := max (floorLog2 num den - 52) (-1074)
    let m :=
      if 0 ≤ q then roundDiv num (den * Nat.pow 2 q.toNat)
        else roundDiv (num * Nat.pow 2 (-q).toNat) den
    ofMagnitude negative ((q + 1074).toNat * Nat.pow 2 52 + m)

/-- The float nearest to an integer; none if it is past the finite floats. -/
def ofInt? (i : Int) : Option Float :=
  let x := nearest (i < 0) i.natAbs 1
  if x.isInf then none else some x

/-- The float nearest to the quotient of two integers, the second not zero; none if it is past the
finite floats. -/
def ofQuotient? (a b : Int) : Option Float :=
  let x := nearest ((a < 0) != (b < 0)) a.natAbs b.natAbs
  if x.isInf then none else some x

/-- Whether a float carries a minus sign. -/
def signBit (x : Float) : Bool := decide (Nat.pow 2 63 ≤ x.toBits.toNat)

/-- The remainder of `x` by `y` that has the sign of `y`; `y` is not zero. The exact remainder is
always a float, so only the last step, which moves it to the side of `y`, rounds. -/
def floorMod (x y : Float) : Float :=
  match Dyadic.ofFloat? x, Dyadic.ofFloat? y with
  | some a, some b =>
    let e := min a.exponent b.exponent
    let m := a.mantissa * Nat.pow 2 (a.exponent - e).toNat
    let n := b.mantissa * Nat.pow 2 (b.exponent - e).toNat
    let r := m % n
    if r = 0 then ofMagnitude b.negative 0
    else
      let rest := if 0 ≤ e then nearest a.negative (r * Nat.pow 2 e.toNat) 1
        else nearest a.negative r (Nat.pow 2 (-e).toNat)
      if a.negative != b.negative then rest + y else rest
  | some a, none =>
    if y.isNaN then y
    else if a.mantissa = 0 then ofMagnitude (signBit y) 0
    else if a.negative != signBit y then x + y else x
  | none, _ => 0.0 / 0.0

end FloScript.Number
