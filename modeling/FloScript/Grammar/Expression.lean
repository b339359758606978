import FloScript.Grammar.Basic

/-! Expressions. Operators bind by levels: an operand of one level is an expression of the next.
What stands in brackets is a full expression again, so the levels take the parsers for these as
arguments, and the depth of nesting is bounded by the number of tokens. -/
namespace FloScript.Parser

/-- Reads operators of the given kinds after a left operand, joining to the left; at most `n` of
them. -/
def operators (kinds : List Kind) (operand : Parser Node) : Nat → Node → Parser Node
  | 0, left => do
    if kinds.contains (← currentKind) then throw .depth
    return left
  | n + 1, left => do
    let t ← current
    if !kinds.contains t.kind then return left
    discard advance
    let right ← operand
    operators kinds operand n (.binary left t.text right)

/-- Operands of one level joined by operators of the given kinds. -/
def level (kinds : List Kind) (operand : Parser Node) : Parser Node := do
  let left ← operand
  operators kinds operand (← get).length left

def multiplicativeOf : Parser Node → Parser Node := level [.multiply, .divide, .modulo]

def additiveOf (unary : Parser Node) : Parser Node := level [.plus, .minus] (multiplicativeOf unary)

def comparisonOf (unary : Parser Node) : Parser Node :=
  level [.lessThan, .greaterThan, .lessEqual, .greaterEqual] (additiveOf unary)

def equalityOf (unary : Parser Node) : Parser Node := level [.equal, .notEqual] (comparisonOf unary)

def conjunctionOf (unary : Parser Node) : Parser Node := level [.and] (equalityOf unary)

def disjunctionOf (unary : Parser Node) : Parser Node := level [.or] (conjunctionOf unary)

/-- A condition with two branches, or the condition alone. -/
def ternaryOf (expression unary : Parser Node) : Parser Node := do
  let condition ← disjunctionOf unary
  if ← accept .question then
    let first ← expression
    discard (expect .colon)
    let second ← expression
    return .conditional condition [first] (some [second])
  else return condition

/-- An assignment to a name, or what could have been its target. -/
def assignmentOf (expression unary : Parser Node) : Parser Node := do
  let target ← ternaryOf expression unary
  if (← currentKind) ≠ .assign then return target
  match target with
  | .identifier name =>
    discard advance
    let value ← expression
    return .assignment name value
  | _ => reject .invalidTarget

/-- A function that returns the value of one expression. -/
def lambda (ps : List String) (body : Node) : Node :=
  .function none ps [.returning (some body)] false

/-- What follows an opening parenthesis. A name or a closing parenthesis begins a list of
parameters; if no arrow follows that list, an expression follows. -/
def parenthesized (expression : Parser Node) : Parser Node := do
  let k ← currentKind
  if k = .identifier || k = .rparen then
    let ps ← parameters
    if ← accept .arrow then return lambda ps (← expression)
  let e ← expression
  discard (expect .rparen)
  return e

/-- The key of a pair: a name stands for itself as a text. -/
def dictKey (expression : Parser Node) : Parser Node := do
  let t ← current
  if t.kind = .identifier then
    discard advance
    return .string (.text t.text)
  else expression

/-- A key, a colon and a value. -/
def dictPair (expression : Parser Node) : Parser (Node × Node) := do
  let key ← dictKey expression
  discard (expect .colon)
  let value ← expression
  return (key, value)

/-- Items in brackets, with newlines allowed around them. -/
def bracketItems {α : Type} (close : Kind) (item : Parser α) : Parser (List α) := do
  skipNewlines
  closedBy close do
    skipNewlines
    let x ← commaAfter item
    skipNewlines
    return x

/-- An expression that begins with its first token alone. -/
def primaryOf (expression : Parser Node) : Parser Node := do
  let t ← current
  match t.kind with
  | .number =>
    discard advance
    return .number t.value
  | .string =>
    discard advance
    return .string t.value
  | .trueWord =>
    discard advance
    return .boolean (.bool true)
  | .falseWord =>
    discard advance
    return .boolean (.bool false)
  | .nullWord =>
    discard advance
    return .null
  | .identifier =>
    discard advance
    return .identifier t.text
  | .lparen =>
    discard advance
    parenthesized expression
  | .lbracket =>
    discard advance
    return .list (← bracketItems .rbracket expression)
  | .lbrace =>
    discard advance
    return .dict (← bracketItems .rbrace (dictPair expression))
  | .arrow =>
    discard advance
    return lambda [] (← expression)
  | k => reject (.unexpectedToken k)

/-- Reads a member, a call or an index after an expression, if one comes next. -/
def access? (expression : Parser Node) (e : Node) : Parser (Option Node) := do
  if ← accept .dot then
    return some (.member e (← expect .identifier).text)
  if ← accept .lparen then
    return some (.call e (← closedBy .rparen (commaAfter expression)))
  if ← accept .lbracket then
    let i ← expression
    discard (expect .rbracket)
    return some (.index e i)
  return none

/-- Reads members, calls and indices after an expression; at most `n` of them. -/
def accesses (expression : Parser Node) : Nat → Node → Parser Node
  | 0, e => do
    if (← access? expression e).isSome then throw .depth
    return e
  | n + 1, e => do
    match ← access? expression e with
    | some e => accesses expression n e
    | none => return e

/-- A primary expression and what is applied to it. -/
def postfixOf (expression : Parser Node) : Parser Node := do
  let e ← primaryOf expression
  accesses expression (← get).length e

mutual

/-- A full expression, nested at most `n` deep. -/
def expressionWithin : Nat → Parser Node
  | 0 => throw .depth
  | n + 1 => assignmentOf (expressionWithin n) (unaryWithin n)

/-- An expression with its signs and awaits in front, nested at most `n` deep. -/
def unaryWithin : Nat → Parser Node
  | 0 => throw .depth
  | n + 1 => do
    let t ← current
    if t.kind = .not || t.kind = .minus then
      discard advance
      return .unary t.text (← unaryWithin n)
    else if t.kind = .awaitWord then
      discard advance
      return .await (← unaryWithin n)
    else postfixOf (expressionWithin n)

end

/-- A depth of nesting that the given tokens cannot exceed. -/
def depthFor (ts : List Token) : Nat := 2 * ts.length + 8

/-- A full expression. -/
def expression : Parser Node := fun ts => expressionWithin (depthFor ts) ts

/-- An expression with its signs and awaits in front. -/
def unary : Parser Node := fun ts => unaryWithin (depthFor ts) ts

def assignment : Parser Node := assignmentOf expression unary

def ternary : Parser Node := ternaryOf expression unary

def disjunction : Parser Node := disjunctionOf unary

def conjunction : Parser Node := conjunctionOf unary

def primary : Parser Node := primaryOf expression

end FloScript.Parser
