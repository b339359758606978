import FloScript.Literal

/-! The syntax tree of a program. -/
namespace FloScript

/-- A node of the tree. Operators are kept as they are written, so a tree made by hand can hold one
that nothing evaluates; `group` and `stray` are what may stand in the place of a node without being
one. -/
inductive Node where
  | blank
  | number (value : Literal)
  | string (value : Literal)
  | boolean (value : Literal)
  | null
  | identifier (name : String)
  | binary (left : Node) (op : String) (right : Node)
  | unary (op : String) (operand : Node)
  | assignment (target : String) (value : Node)
  | call (function : Node) (arguments : List Node)
  | member (object : Node) (name : String)
  | index (object index : Node)
  | list (elements : List Node)
  | dict (pairs : List (Node × Node))
  | conditional (condition : Node) (thenBlock : List Node) (elseBlock : Option (List Node))
  | whileLoop (condition : Node) (body : List Node)
  | forLoop (item : String) (iterable : Node) (body : List Node)
  | function (name : Option String) (parameters : List String) (body : List Node) (isAsync : Bool)
  | returning (value : Option Node)
  | trying (block : List Node) (catchVariable : Option String)
      (catchBlock finallyBlock : Option (List Node))
  | await (expression : Node)
  | decorator (name : String) (arguments : List Node)
  | decorated (decorators : List Node) (function : Node)
  | program (statements : List Node)
  | group (nodes : List Node)
  | stray (value : Literal)
  deriving Inhabited

namespace Node

/-- The name of the type of a node. -/
def typeName : Node → String
  | blank => "ASTNode"
  | number _ => "NumberLiteral"
  | string _ => "StringLiteral"
  | boolean _ => "BooleanLiteral"
  | null => "NullLiteral"
  | identifier _ => "Identifier"
  | binary .. => "BinaryOp"
  | unary .. => "UnaryOp"
  | assignment .. => "Assignment"
  | call .. => "FunctionCall"
  | member .. => "MemberAccess"
  | index .. => "IndexAccess"
  | list _ => "ListLiteral"
  | dict _ => "DictLiteral"
  | conditional .. => "IfStatement"
  | whileLoop .. => "WhileStatement"
  | forLoop .. => "ForStatement"
  | function .. => "FunctionDef"
  | returning _ => "ReturnStatement"
  | trying .. => "TryStatement"
  | await _ => "AwaitExpression"
  | decorator .. => "Decorator"
  | decorated .. => "DecoratedFunction"
  | program _ => "Program"
  | group _ => "list"
  | stray v => v.typeName

/-- What a field of a node holds. -/
inductive Field where
  | literal (v : Literal)
  | names (ns : List String)
  | node (n : Node)
  | block (ns : List Node)
  | pairs (ps : List (Node × Node))

def Field.ofText? : Option String → Field
  | some s => .literal (.text s)
  | none => .literal .null

def Field.ofNode? : Option Node → Field
  | some n => .node n
  | none => .literal .null

def Field.ofBlock? : Option (List Node) → Field
  | some b => .block b
  | none => .literal .null

/-- The fields of a node by name, in order. -/
def fields : Node → List (String × Field)
  | blank | null | group _ | stray _ => []
  | number v | string v | boolean v => [("value", .literal v)]
  | identifier name => [("name", .literal (.text name))]
  | binary l op r => [("left", .node l), ("operator", .literal (.text op)), ("right", .node r)]
  | unary op n => [("operator", .literal (.text op)), ("operand", .node n)]
  | assignment t v => [("target", .literal (.text t)), ("value", .node v)]
  | call f args => [("function", .node f), ("arguments", .block args)]
  | member o name => [("object", .node o), ("member", .literal (.text name))]
  | index o i => [("object", .node o), ("index", .node i)]
  | list es => [("elements", .block es)]
  | dict ps => [("pairs", .pairs ps)]
  | conditional c t e =>
    [("condition", .node c), ("then_block", .block t), ("else_block", .ofBlock? e)]
  | whileLoop c b => [("condition", .node c), ("body", .block b)]
  | forLoop x i b => [("variable", .literal (.text x)), ("iterable", .node i), ("body", .block b)]
  | function name ps b a =>
    [("name", .ofText? name), ("parameters", .names ps), ("body", .block b),
     ("is_async", .literal (.bool a))]
  | returning v => [("value", .ofNode? v)]
  | trying b x c f =>
    [("try_block", .block b), ("catch_variable", .ofText? x), ("catch_block", .ofBlock? c),
     ("finally_block", .ofBlock? f)]
  | await e => [("expression", .node e)]
  | decorator name args => [("name", .literal (.text name)), ("arguments", .block args)]
  | decorated ds f => [("decorators", .block ds), ("function", .node f)]
  | program ss => [("statements", .block ss)]

/-- Texts in brackets, with commas between them. -/
def bracketed (ts : List String) : String := "[" ++ ", ".intercalate ts ++ "]"

/-- A type name with named fields. -/
def record (name : String) (fields : List (String × String)) : String :=
  name ++ "(" ++ ", ".intercalate (fields.map fun f => f.1 ++ "=" ++ f.2) ++ ")"

/-- A text or the word for its absence. -/
def textOr : Option String → String
  | some s => Text.quote s
  | none => "None"

mutual

/-- The node as a listing shows it: its type and its fields. -/
def listing : Node → String
  | blank => record "ASTNode" []
  | null => record "NullLiteral" []
  | number v => record "NumberLiteral" [("value", v.quoted)]
  | string v => record "StringLiteral" [("value", v.quoted)]
  | boolean v => record "BooleanLiteral" [("value", v.quoted)]
  | identifier name => record "Identifier" [("name", Text.quote name)]
  | binary l op r =>
    record "BinaryOp" [("left", listing l), ("operator", Text.quote op), ("right", listing r)]
  | unary op n => record "UnaryOp" [("operator", Text.quote op), ("operand", listing n)]
  | assignment t v => record "Assignment" [("target", Text.quote t), ("value", listing v)]
  | call f args => record "FunctionCall" [("function", listing f), ("arguments", listingBlock args)]
  | member o name => record "MemberAccess" [("object", listing o), ("member", Text.quote name)]
  | index o i => record "IndexAccess" [("object", listing o), ("index", listing i)]
  | list es => record "ListLiteral" [("elements", listingBlock es)]
  | dict ps => record "DictLiteral" [("pairs", bracketed (listingPairs ps))]
  | conditional c t none =>
    record "IfStatement"
      [("condition", listing c), ("then_block", listingBlock t), ("else_block", "None")]
  | conditional c t (some e) =>
    record "IfStatement"
      [("condition", listing c), ("then_block", listingBlock t), ("else_block", listingBlock e)]
  | whileLoop c b => record "WhileStatement" [("condition", listing c), ("body", listingBlock b)]
  | forLoop x i b =>
    record "ForStatement"
      [("variable", Text.quote x), ("iterable", listing i), ("body", listingBlock b)]
  | function name ps b a =>
    record "FunctionDef"
      [("name", textOr name), ("parameters", bracketed (ps.map Text.quote)),
       ("body", listingBlock b), ("is_async", (Literal.bool a).quoted)]
  | returning none => record "ReturnStatement" [("value", "None")]
  | returning (some v) => record "ReturnStatement" [("value", listing v)]
  | trying b x c f =>
    record "TryStatement"
      [("try_block", listingBlock b), ("catch_variable", textOr x),
       ("catch_block", listingOption c), ("finally_block", listingOption f)]
  | await e => record "AwaitExpression" [("expression", listing e)]
  | decorator name args =>
    record "Decorator" [("name", Text.quote name), ("arguments", listingBlock args)]
  | decorated ds f =>
    record "DecoratedFunction" [("decorators", listingBlock ds), ("function", listing f)]
  | program ss => record "Program" [("statements", listingBlock ss)]
  | group ns => listingBlock ns
  | stray v => v.quoted

/-- A list of nodes in brackets. -/
def listingBlock (ns : List Node) : String := bracketed (listingAll ns)

def listingOption : Option (List Node) → String
  | none => "None"
  | some ns => listingBlock ns

def listingAll : List Node → List String
  | [] => []
  | n :: ns => listing n :: listingAll ns

def listingPairs : List (Node × Node) → List String
  | [] => []
  | (k, v) :: ps => ("(" ++ listing k ++ ", " ++ listing v ++ ")") :: listingPairs ps

end

end Node
end FloScript
