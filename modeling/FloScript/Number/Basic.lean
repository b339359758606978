import FloScript.Fault

/-! Numbers: integers of any size and floats. Integers stay exact; with a float on one side the
integer becomes the nearest float first, except in comparisons, which are exact. -/
namespace FloScript

/-- An integer of any size or a float. -/
inductive Number where
  | int (i : Int)
  | float (x : Float)
  deriving Inhabited

namespace Number

/-- A number as a float. -/
def toFloat : Number → Except Fault Float
  | int i =>
    match ofInt? i with
    | some x => .ok x
    | none => .error (.overflow .integerToFloat)
  | float x => .ok x

/-- Applies one rule to two integers and another to floats. -/
def combine (ints : Int → Int → Except Fault Number)
    (floats : Float → Float → Except Fault Number) :
    Number → Number → Except Fault Number
  | int a, int b => ints a b
  | a, b => do floats (← a.toFloat) (← b.toFloat)

def add : Number → Number → Except Fault Number :=
  combine (fun a b => .ok (int (a + b))) fun x y => .ok (float (x + y))

def sub : Number → Number → Except Fault Number :=
  combine (fun a b => .ok (int (a - b))) fun x y => .ok (float (x - y))

def mul : Number → Number → Except Fault Number :=
  combine (fun a b => .ok (int (a * b))) fun x y => .ok (float (x * y))

/-- The quotient of two integers, as the nearest float. -/
def divideInts (a b : Int) : Except Fault Number :=
  if b = 0 then .error (.division .quotient)
  else
    match ofQuotient? a b with
    | some x => .ok (float x)
    | none => .error (.overflow .quotientToFloat)

def divideFloats (x y : Float) : Except Fault Number :=
  if y == 0.0 then .error (.division .floatQuotient) else .ok (float (x / y))

def div : Number → Number → Except Fault Number := combine divideInts divideFloats

/-- The remainder that has the sign of the divisor. -/
def rem : Number → Number → Except Fault Number :=
  combine
    (fun a b => if b = 0 then .error (.division .integerRemainder) else .ok (int (a.fmod b)))
    fun x y => if y == 0.0 then .error (.division .floatRemainder) else .ok (float (floorMod x y))

def neg : Number → Number
  | int i => int (-i)
  | float x => float (-x)

def isNaN : Number → Bool
  | int _ => false
  | float x => x.isNaN

/-- How an integer compares with a float; nothing compares with what is not a number. -/
def compareWithFloat (i : Int) (x : Float) : Option Ordering :=
  match Dyadic.ofFloat? x with
  | some d => some (d.compareInt i)
  | none => if x.isNaN then none else if x < 0.0 then some .gt else some .lt

/-- How two numbers compare. -/
def compare? : Number → Number → Option Ordering
  | int a, int b => some (compare a b)
  | int a, float y => compareWithFloat a y
  | float x, int b => (compareWithFloat b x).map Ordering.swap
  | float x, float y =>
    if x < y then some .lt else if x == y then some .eq else if y < x then some .gt else none

/-- Whether two numbers are equal. -/
def equal (a b : Number) : Bool := compare? a b == some .eq

/-- The integer between zero and a float that lies nearest to the float. -/
def truncateFloat (x : Float) : Except Fault Int :=
  match Dyadic.ofFloat? x with
  | some d => .ok d.truncate
  | none => if x.isNaN then .error (.value .nanToInteger) else .error (.overflow .infinityToInteger)

/-- A number as an integer, its fraction dropped. -/
def truncate : Number → Except Fault Int
  | int i => .ok i
  | float x => truncateFloat x

end Number
end FloScript
