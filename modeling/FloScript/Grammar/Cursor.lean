import FloScript.Grammar.Statement

/-! A cursor in a list of tokens, from which parsers can be run one after the other. Its place may
lie outside the list: behind the end it stands on the last token, and in front of the beginning it
counts from the end and goes on with the whole list. -/
namespace FloScript

/-- A place in a list of tokens. -/
structure Cursor where
  tokens : List Token
  pos : Int

namespace Cursor

/-- The tokens to read from the place on. -/
def remaining (c : Cursor) : List Token :=
  let size : Int := c.tokens.length
  if size ≤ c.pos then c.tokens.drop (c.tokens.length - 1)
  else if 0 ≤ c.pos then c.tokens.drop c.pos.toNat
  else if -size ≤ c.pos then c.tokens.drop (size + c.pos).toNat ++ c.tokens
  else []

/-- Runs a parser from the place; the new place counts the tokens it has read. -/
def run {α : Type} (p : Parser α) (c : Cursor) : Except Fault α × Cursor :=
  let ts := c.remaining
  let moved (rest : List Token) : Cursor :=
    { c with pos := c.pos + (ts.length - rest.length : Nat) }
  match p ts with
  | .ok a rest => (.ok a, moved rest)
  | .error e rest => (.error e, moved rest)

/-- The token a given distance from the place. -/
def peek (offset : Int) (c : Cursor) : Except Fault Token :=
  match ({ c with pos := c.pos + offset } : Cursor).remaining with
  | t :: _ => .ok t
  | [] => .error (.outOfRange "list")

end Cursor
end FloScript
