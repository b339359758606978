import FloScript.Grammar.Expression

/-! Statements and programs. A block is one statement or several in braces; a statement takes the
parser for the statements inside it as an argument. -/
namespace FloScript.Parser

/-- One statement, or several in braces. -/
def blockOf (statement : Parser Node) : Parser (List Node) := do
  if ← accept .lbrace then
    skipNewlines
    closedBy .rbrace do
      let s ← statement
      skipNewlines
      return s
  else return [← statement]

/-- A return and its value, if one follows on the line. -/
def returnStatement : Parser Node := do
  discard (expect .returnWord)
  let k ← currentKind
  if k = .newline || k = .semicolon || k = .eof then return .returning none
  return .returning (some (← expression))

/-- What stands after the arrow of a branch: a return or an expression. -/
def branch : Parser (List Node) := do
  if (← currentKind) = .returnWord then return [← returnStatement]
  return [← expression]

/-- The else part of a condition whose first branch has an arrow. -/
def arrowElse : Parser (Option (List Node)) := do
  skipNewlines
  if ← accept .elseWord then
    if ← accept .arrow then return some (← branch)
  return none

/-- The else part of a condition whose first branch is a block. -/
def blockElse (statement : Parser Node) : Parser (Option (List Node)) := do
  skipNewlines
  if ← accept .elseWord then return some (← blockOf statement)
  return none

def ifOf (statement : Parser Node) : Parser Node := do
  discard (expect .ifWord)
  let condition ← expression
  if ← accept .arrow then
    let first ← branch
    return .conditional condition first (← arrowElse)
  else
    let first ← blockOf statement
    return .conditional condition first (← blockElse statement)

def whileOf (statement : Parser Node) : Parser Node := do
  discard (expect .whileWord)
  let condition ← expression
  return .whileLoop condition (← blockOf statement)

def forOf (statement : Parser Node) : Parser Node := do
  discard (expect .forWord)
  let item ← expect .identifier
  let iterable ← expression
  return .forLoop item.text iterable (← blockOf statement)

/-- A function with an optional name, optional parameters and a body that is an expression or a
block. -/
def functionOf (statement : Parser Node) : Parser Node := do
  let isAsync ← accept .asyncWord
  discard (expect .funcWord)
  let t ← current
  let name ← if t.kind = .identifier then discard advance; pure (some t.text) else pure none
  let ps ← if ← accept .lparen then parameters else pure []
  if ← accept .arrow then
    let e ← expression
    return .function name ps [.returning (some e)] isAsync
  else return .function name ps (← blockOf statement) isAsync

def tryOf (statement : Parser Node) : Parser Node := do
  discard (expect .tryWord)
  let body ← blockOf statement
  skipNewlines
  let (caught, handler) ← do
    if ← accept .catchWord then
      let t ← current
      let caught ← if t.kind = .identifier then discard advance; pure (some t.text) else pure none
      pure (caught, some (← blockOf statement))
    else pure (none, none)
  skipNewlines
  let final ← if ← accept .finallyWord then pure (some (← blockOf statement)) else pure none
  return .trying body caught handler final

/-- A decorator after its sign: a name and optional arguments. -/
def decoratorBody : Parser Node := do
  let name ← expect .identifier
  let args ← if ← accept .lparen then closedBy .rparen (commaAfter expression) else pure []
  skipNewlines
  return .decorator name.text args

/-- Decorators one after the other; at most `n` of them. -/
def decorators : Nat → Parser (List Node)
  | 0 => return []
  | n + 1 => do
    if ← accept .atSign then
      let d ← decoratorBody
      return d :: (← decorators n)
    else return []

/-- Decorators with the function they belong to. Without a function, a single decorator stands for
itself and several for a group. -/
def decoratedOf (statement : Parser Node) : Parser Node := do
  let ds ← decorators (← get).length
  if (← currentKind) = .funcWord then return .decorated ds (← functionOf statement)
  match ds with
  | [d] => return d
  | ds => return .group ds

/-- One statement, nested at most `n` deep. -/
def statementWithin : Nat → Parser Node
  | 0 => throw .depth
  | n + 1 => do
    skipNewlines
    match ← currentKind with
    | .atSign => decoratedOf (statementWithin n)
    | .ifWord => ifOf (statementWithin n)
    | .whileWord => whileOf (statementWithin n)
    | .forWord => forOf (statementWithin n)
    | .funcWord => functionOf (statementWithin n)
    | .returnWord => returnStatement
    | .tryWord => tryOf (statementWithin n)
    | _ =>
      let e ← expression
      let k ← currentKind
      if k = .semicolon || k = .newline then discard advance
      return e

/-- One statement. -/
def statement : Parser Node := fun ts => statementWithin (depthFor ts) ts

def block : Parser (List Node) := blockOf statement

def decorated : Parser Node := decoratedOf statement

/-- All statements up to the end. -/
def program : Parser Node := do
  skipNewlines
  let ss ← itemsUntil .eof (do let s ← statement; skipNewlines; return s) (← get).length
  return .program ss

end FloScript.Parser

namespace FloScript

/-- The program that a list of tokens stands for. -/
def programOf (ts : List Token) : Except Fault Node :=
  match Parser.program ts with
  | .ok n _ => .ok n
  | .error e _ => .error e

end FloScript
