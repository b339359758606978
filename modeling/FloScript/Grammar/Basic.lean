import FloScript.Node
import FloScript.Token

/-! Reading tokens one after the other. A parser works on the tokens still to read and never drops
the last one, so there is always a current token. -/
namespace FloScript

/-- A parser gives a result or a fault, and in both cases the tokens it has not read. -/
abbrev Parser := EStateM Fault (List Token)

namespace Parser

variable {α : Type}

/-- The token that comes next. -/
def current : Parser Token
  | [] => .error (.outOfRange "list") []
  | t :: ts => .ok t (t :: ts)

/-- The kind of the token that comes next. -/
def currentKind : Parser Kind := return (← current).kind

/-- Reads one token; the last one stays. -/
def advance : Parser Token
  | [] => .error (.outOfRange "list") []
  | [t] => .ok t [t]
  | t :: u :: ts => .ok t (u :: ts)

/-- A fault at the current token. -/
def reject (cause : SourceFault) : Parser α := do
  throw (.grammatical (← current).place cause)

/-- Reads a token of the given kind. -/
def expect (kind : Kind) : Parser Token := do
  let t ← current
  if t.kind = kind then advance else reject (.expected kind t.kind)

/-- Reads a token if it is of the given kind; tells whether it was. -/
def accept (kind : Kind) : Parser Bool := do
  if (← currentKind) = kind then
    discard advance
    return true
  else return false

/-- The tokens after the newlines that come next. -/
def dropNewlines : List Token → List Token
  | t :: u :: ts => if t.kind = .newline then dropNewlines (u :: ts) else t :: u :: ts
  | ts => ts

/-- Passes over newlines. -/
def skipNewlines : Parser Unit := do
  discard current
  modify dropNewlines

/-- Reads items up to a token of the closing kind, which stays; at most `n` items. -/
def itemsUntil (close : Kind) (item : Parser α) : Nat → Parser (List α)
  | 0 => do
    if (← currentKind) = close then return []
    throw .depth
  | n + 1 => do
    if (← currentKind) = close then return []
    let x ← item
    let xs ← itemsUntil close item n
    return x :: xs

/-- Reads items up to a token of the closing kind, and that token. Each item takes a token, so there
are no more items than tokens. -/
def closedBy (close : Kind) (item : Parser α) : Parser (List α) := do
  let xs ← itemsUntil close item (← get).length
  discard (expect close)
  return xs

/-- Reads an item and the comma after it, if there is one. -/
def commaAfter (item : Parser α) : Parser α := do
  let x ← item
  discard (accept .comma)
  return x

/-- Reads parameter names up to a closing parenthesis, and that parenthesis. -/
def parameters : Parser (List String) :=
  closedBy .rparen (commaAfter (return (← expect .identifier).text))

end Parser
end FloScript
