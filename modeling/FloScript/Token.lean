import FloScript.Fault
import FloScript.Literal
import FloScript.Token.Kind

/-! Tokens: the words of a source text, each with its kind, value and place. -/
namespace FloScript

/-- A token; its place is that of its first character. -/
structure Token where
  kind : Kind
  value : Literal
  place : Position
  deriving DecidableEq, Repr, Inhabited

namespace Token

/-- The value of a token as a text, for names and operators. -/
def text (t : Token) : String := t.value.display

/-- The token as a listing shows it. -/
def listing (t : Token) : String :=
  "Token(" ++ t.kind.name ++ ", " ++ t.value.quoted ++ ", " ++ toString t.place.line ++ ":" ++
    toString t.place.column ++ ")"

end Token
end FloScript
