import FloScript.Number.Written
import FloScript.Text.Quoted

/-! Literals: the plain values that tokens carry and that a syntax tree holds at its leaves. -/
namespace FloScript

/-- A plain value. -/
inductive Literal where
  | null
  | bool (b : Bool)
  | int (i : Int)
  | float (x : Float)
  | text (s : String)
  deriving DecidableEq, Repr, Inhabited

namespace Literal

/-- The decimal text of an integer. -/
def intText (i : Int) : String :=
  String.ofList ((if i < 0 then ['-'] else []) ++ Number.digitsOf i.natAbs)

/-- The text of a literal in a listing, where texts stand between quotes. -/
def quoted : Literal → String
  | null => "None"
  | bool true => "True"
  | bool false => "False"
  | int i => intText i
  | float x => Number.floatText x
  | text s => Text.quote s

/-- The text of a literal in a message, where texts stand as they are. -/
def display : Literal → String
  | text s => s
  | v => v.quoted

/-- The name of the type of a literal. -/
def typeName : Literal → String
  | null => "NoneType"
  | bool _ => "bool"
  | int _ => "int"
  | float _ => "float"
  | text _ => "str"

/-- Whether a literal counts as true. -/
def truthy : Literal → Bool
  | null => false
  | bool b => b
  | int i => i != 0
  | float x => x != 0.0
  | text s => !s.isEmpty

end Literal
end FloScript
