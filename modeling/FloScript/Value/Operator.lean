import FloScript.Value.Equality
import FloScript.Value.Percent

/-! Operators on values. -/
namespace FloScript

/-- The operators that compare by order. -/
inductive Comparison where
  | lt | gt | le | ge
  deriving DecidableEq, Repr

namespace Comparison

def symbol : Comparison → String
  | lt => "<"
  | gt => ">"
  | le => "<="
  | ge => ">="

/-- Whether an order satisfies the comparison. -/
def holds : Comparison → Ordering → Bool
  | lt, o => o == .lt
  | gt, o => o == .gt
  | le, o => o != .gt
  | ge, o => o != .lt

end Comparison

/-- The operators between two values. -/
inductive Operator where
  | add | sub | mul | div | rem
  | eq | ne
  | compare (c : Comparison)
  | both | either
  deriving DecidableEq, Repr

/-- The operator of a spelling. -/
def Operator.ofText? (s : String) : Option Operator :=
  [("+", add), ("-", sub), ("*", mul), ("/", div), ("%", rem), ("==", eq), ("!=", ne),
   ("<", compare .lt), (">", compare .gt), ("<=", compare .le), (">=", compare .ge),
   ("&&", both), ("||", either)].lookup s

namespace Value

/-- The fault of an operator that does not know the types of its operands. -/
def operandFault (op : String) (a b : Value) : Fault := .type (.operands op a.typeName b.typeName)

/-- Applies a rule to two numbers. -/
def arithmetic (op : String) (rule : Number → Number → Except Fault Number) (a b : Value) :
    Run Value :=
  match a.num?, b.num? with
  | some x, some y => do Run.ofNumber (← Run.lift (rule x y))
  | _, _ => Run.fail (operandFault op a b)

def plus (a b : Value) : Run Value :=
  match a, b with
  | text s, text t => return text (s ++ t)
  | list as, list bs => return list (as ++ bs)
  | tuple as, tuple bs => return tuple (as ++ bs)
  | text _, _ | list _, _ | tuple _, _ => Run.fail (.type (.concatenation a.typeName b.typeName))
  | _, _ => arithmetic "+" Number.add a b

/-- How often a sequence of the given length is repeated: never less than zero times, and not beyond
the limit on the length of the result. -/
def repetitions (limit : Nat) (tooLong : Fault) (length : Nat) (count : Int) : Except Fault Nat :=
  if (sizeLimit : Int) < count ∨ count < -(sizeLimit : Int) - 1 then .error (.overflow .indexSize)
  else if limit < length * count.toNat then .error tooLong
  else if length = 0 then .ok 0
  else .ok count.toNat

/-- A list several times over. -/
def repeated {α : Type} (n : Nat) (xs : List α) : List α := (List.replicate n xs).flatten

/-- Repeats a text, list or tuple. -/
def replicate (v : Value) (count : Int) : Except Fault Value :=
  match v with
  | text s => do
    let n ← repetitions sizeLimit (.overflow .textRepeat) s.length count
    return text (String.join (List.replicate n s))
  | list items => return list (repeated (← repetitions itemLimit .memory items.length count) items)
  | tuple items =>
    return tuple (repeated (← repetitions itemLimit .memory items.length count) items)
  | v => .ok v

def isSequence : Value → Bool
  | text _ | list _ | tuple _ => true
  | _ => false

def times (a b : Value) : Run Value :=
  if a.isSequence then
    match b.integer? with
    | some n => Run.lift (a.replicate n)
    | none => Run.fail (.type (.repetition b.typeName))
  else if b.isSequence then
    match a.integer? with
    | some n => Run.lift (b.replicate n)
    | none => Run.fail (.type (.repetition a.typeName))
  else arithmetic "*" Number.mul a b

def remainder (a b : Value) : Run Value :=
  match a with
  | text s => do return text (← Run.lift (Percent.format (← Run.scopes) s b))
  | _ => arithmetic "%" Number.rem a b

/-- The first place where two lists differ, as what is left of both. -/
def firstDifference (ss : Scopes) : List Value → List Value → Except Fault (List Value × List Value)
  | a :: as, b :: bs => do
    if ← matching ss a b then firstDifference ss as bs else return (a :: as, b :: bs)
  | as, bs => .ok (as, bs)

/-- Compares by order, at most `n` deep. -/
def orderWithin (ss : Scopes) (c : Comparison) : Nat → Value → Value → Except Fault Bool
  | 0, _, _ => .error .depth
  | n + 1, a, b =>
    let lists (as bs : List Value) : Except Fault Bool := do
      match ← firstDifference ss as bs with
      | (v :: _, w :: _) => orderWithin ss c n v w
      | (vs, ws) => return c.holds (compare vs.length ws.length)
    match a, b with
    | text s, text t => .ok (c.holds (compare s t))
    | list as, list bs => lists as bs
    | tuple as, tuple bs => lists as bs
    | _, _ =>
      match a.num?, b.num? with
      | some x, some y => .ok ((x.compare? y).any c.holds)
      | _, _ => .error (.type (.ordering c.symbol a.typeName b.typeName))

/-- Applies an operator. Both operands are worked out already, also for `&&` and `||`. -/
def apply (op : Operator) (a b : Value) : Run Value :=
  match op with
  | .add => plus a b
  | .sub => arithmetic "-" Number.sub a b
  | .mul => times a b
  | .div => arithmetic "/" Number.div a b
  | .rem => remainder a b
  | .eq => do return bool (← Run.lift (equal (← Run.scopes) a b))
  | .ne => do return bool !(← Run.lift (equal (← Run.scopes) a b))
  | .compare c => do return bool (← Run.lift (orderWithin (← Run.scopes) c depthLimit a b))
  | .both => do return if truthy (← Run.scopes) a then b else a
  | .either => do return if truthy (← Run.scopes) a then a else b

def negate (v : Value) : Run Value :=
  match v.num? with
  | some x => Run.ofNumber x.neg
  | none => Run.fail (.type (.negation v.typeName))

end Value
end FloScript
