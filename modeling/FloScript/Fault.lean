import FloScript.Number.Reading
import FloScript.Text.Quoted
import FloScript.Token.Kind

/-! Faults: everything that can go wrong, by cause, and the wording of each cause. -/
namespace FloScript

/-- A place in a source text; lines and columns count from one. -/
structure Position where
  line : Nat
  column : Nat
  deriving DecidableEq, Repr, Inhabited

/-- Why a source text cannot be read. -/
inductive SourceFault where
  | unexpectedCharacter (c : Char)
  | unterminatedString
  | expected (wanted found : Kind)
  | unexpectedToken (found : Kind)
  | invalidTarget
  | other (text : String)
  deriving DecidableEq, Repr

def SourceFault.message : SourceFault → String
  | unexpectedCharacter c => "Unexpected character: " ++ c.toString
  | unterminatedString => "Unterminated string"
  | expected wanted found => "Expected " ++ wanted.name ++ ", got " ++ found.name
  | unexpectedToken found => "Unexpected token: " ++ found.name
  | invalidTarget => "Invalid assignment target"
  | other text => text

/-- A value of an unsuitable type. The names are those of the types involved. -/
inductive TypeFault where
  | operands (op left right : String)
  | concatenation (left right : String)
  | repetition (count : String)
  | negation (operand : String)
  | ordering (op left right : String)
  | unhashable (name : String)
  | notIterable (name : String)
  | notInteger (name : String)
  | integerArgument (name : String)
  | floatArgument (name : String)
  | missingArgument (function parameter : String)
  | surplusArguments (function arity : String) (given : Nat)
  | rangeTooFew
  | rangeTooMany (given : Nat)
  | leftoverArguments
  | missingArguments
  | mappingRequired
  | textIndex (name : String)
  | starWidth
  | charRequired
  | realRequired (conversion : Char) (name : String)
  | integerRequired (conversion : Char) (name : String)
  | realNumber (name : String)
  | notSerializable (name : String)
  | jsonKey (name : String)
  deriving DecidableEq, Repr

def TypeFault.message : TypeFault → String
  | operands op left right =>
    "unsupported operand type(s) for " ++ op ++ ": '" ++ left ++ "' and '" ++ right ++ "'"
  | concatenation left right =>
    "can only concatenate " ++ left ++ " (not \"" ++ right ++ "\") to " ++ left
  | repetition count => "can't multiply sequence by non-int of type '" ++ count ++ "'"
  | negation operand => "bad operand type for unary -: '" ++ operand ++ "'"
  | ordering op left right =>
    "'" ++ op ++ "' not supported between instances of '" ++ left ++ "' and '" ++ right ++ "'"
  | unhashable name => "unhashable type: '" ++ name ++ "'"
  | notIterable name => "'" ++ name ++ "' object is not iterable"
  | notInteger name => "'" ++ name ++ "' object cannot be interpreted as an integer"
  | integerArgument name =>
    "int() argument must be a string, a bytes-like object or a real number, not '" ++ name ++ "'"
  | floatArgument name => "float() argument must be a string or a real number, not '" ++ name ++ "'"
  | missingArgument function parameter =>
    function ++ "() missing 1 required positional argument: '" ++ parameter ++ "'"
  | surplusArguments function arity given =>
    function ++ "() takes " ++ arity ++ " but " ++ toString given ++ " were given"
  | rangeTooFew => "range expected at least 1 argument, got 0"
  | rangeTooMany given => "range expected at most 3 arguments, got " ++ toString given
  | leftoverArguments => "not all arguments converted during string formatting"
  | missingArguments => "not enough arguments for format string"
  | mappingRequired => "format requires a mapping"
  | textIndex name => name ++ " indices must be integers or slices, not str"
  | starWidth => "* wants int"
  | charRequired => "%c requires int or char"
  | realRequired conversion name =>
    "%" ++ conversion.toString ++ " format: a real number is required, not " ++ name
  | integerRequired conversion name =>
    "%" ++ conversion.toString ++ " format: an integer is required, not " ++ name
  | realNumber name => "must be real number, not " ++ name
  | notSerializable name => "Object of type " ++ name ++ " is not JSON serializable"
  | jsonKey name => "keys must be str, int, float, bool or None, not " ++ name

/-- A value of a suitable type that has no result. -/
inductive ValueFault where
  | integerText (text : String)
  | integerTooLong (digits : Nat)
  | integerUnwritable
  | floatText (text : String)
  | nanToInteger
  | zeroStep
  | incompleteFormat
  | incompleteKey
  | unsupportedConversion (conversion : Char) (index : Nat)
  | widthTooBig
  | precisionTooBig
  | circularReference
  | embeddedNull
  | undecodable (detail : String)
  deriving DecidableEq, Repr

def ValueFault.message : ValueFault → String
  | integerText text =>
    "invalid literal for int() with base 10: " ++ ((Text.quote text).take 200).toString
  | integerTooLong digits =>
    "Exceeds the limit (4300 digits) for integer string conversion: value has " ++
      toString digits ++ " digits; use sys.set_int_max_str_digits() to increase the limit"
  | integerUnwritable =>
    "Exceeds the limit (4300 digits) for integer string conversion; " ++
      "use sys.set_int_max_str_digits() to increase the limit"
  | floatText text => "could not convert string to float: " ++ Text.quote text
  | nanToInteger => "cannot convert float NaN to integer"
  | zeroStep => "range() arg 3 must not be zero"
  | incompleteFormat => "incomplete format"
  | incompleteKey => "incomplete format key"
  | unsupportedConversion c index =>
    let shown := if 31 ≤ c.toNat && c.toNat ≤ 126 then c else '?'
    "unsupported format character '" ++ shown.toString ++ "' (0x" ++
      String.ofList (Nat.toDigits 16 c.toNat) ++ ") at index " ++ toString index
  | widthTooBig => "width too big"
  | precisionTooBig => "precision too big"
  | circularReference => "Circular reference detected"
  | embeddedNull => "embedded null byte"
  | undecodable detail => detail

/-- A number out of range. -/
inductive OverflowFault where
  | integerToFloat
  | quotientToFloat
  | infinityToInteger
  | indexSize
  | machineWord (name : String)
  | textRepeat
  | charRange
  | patternRepeat
  | precisionTooLarge
  deriving DecidableEq, Repr

def OverflowFault.message : OverflowFault → String
  | integerToFloat => "int too large to convert to float"
  | quotientToFloat => "integer division result too large for a float"
  | infinityToInteger => "cannot convert float infinity to integer"
  | indexSize => "cannot fit 'int' into an index-sized integer"
  | machineWord name => "Python int too large to convert to C " ++ name
  | textRepeat => "repeated string is too long"
  | charRange => "%c arg not in range(0x110000)"
  | patternRepeat => "the repetition number is too large"
  | precisionTooLarge => "precision too large"

/-- A division that has no quotient. -/
inductive DivisionFault where
  | quotient
  | floatQuotient
  | integerRemainder
  | floatRemainder
  deriving DecidableEq, Repr

def DivisionFault.message : DivisionFault → String
  | quotient => "division by zero"
  | floatQuotient => "float division by zero"
  | integerRemainder => "integer modulo by zero"
  | floatRemainder => "float modulo"

/-- A program that asks for what cannot be done. -/
inductive RuntimeFault where
  | unknownNode (name : String)
  | unknownOperator (op : String)
  | unknownUnaryOperator (op : String)
  | notCallable (text : String)
  | alreadyAwaited
  | changedWhileRead
  deriving DecidableEq, Repr

def RuntimeFault.message : RuntimeFault → String
  | unknownNode name => "Unknown AST node type: " ++ name
  | unknownOperator op => "Unknown operator: " ++ op
  | unknownUnaryOperator op => "Unknown unary operator: " ++ op
  | notCallable text => "Not a function: " ++ text
  | alreadyAwaited => "cannot reuse already awaited coroutine"
  | changedWhileRead => "dictionary changed size during iteration"

/-- A place in a text: how many characters stand before it, and its line and column. -/
structure Offset where
  index : Nat
  line : Nat
  column : Nat
  deriving DecidableEq, Repr, Inhabited

/-- The place after the first `n` characters of a text. -/
def Offset.within (cs : List Char) (n : Nat) : Offset :=
  let before := cs.take n
  ⟨n, before.count '\n' + 1, (before.reverse.takeWhile (· ≠ '\n')).length + 1⟩

/-- Everything that can go wrong while a program is read or run. -/
inductive Fault where
  | lexical (place : Position) (cause : SourceFault)
  | grammatical (place : Position) (cause : SourceFault)
  | undefined (name : String)
  | type (cause : TypeFault)
  | value (cause : ValueFault)
  | overflow (cause : OverflowFault)
  | division (cause : DivisionFault)
  | runtime (cause : RuntimeFault)
  | missingKey (quoted : String)
  | outOfRange (what : String)
  | memory
  | depth
  | json (problem : String) (place : Offset)
  | pattern (problem : String)
  | raised (kind text : String)
  deriving DecidableEq, Repr

/-- What a fault says. -/
def Fault.message : Fault → String
  | lexical p cause =>
    "Lexer error at " ++ toString p.line ++ ":" ++ toString p.column ++ ": " ++ cause.message
  | grammatical p cause =>
    "Parser error at " ++ toString p.line ++ ":" ++ toString p.column ++ ": " ++ cause.message
  | undefined name => "Undefined variable: " ++ name
  | type cause => cause.message
  | value cause => cause.message
  | overflow cause => cause.message
  | division cause => cause.message
  | runtime cause => cause.message
  | missingKey quoted => quoted
  | outOfRange what => what ++ " index out of range"
  | memory => ""
  | depth => "maximum recursion depth exceeded"
  | json problem place =>
    problem ++ ": line " ++ toString place.line ++ " column " ++ toString place.column ++
      " (char " ++ toString place.index ++ ")"
  | pattern problem => problem
  | raised _ text => text

/-- The fault of a text that is not an integer. -/
def Fault.ofInteger (text : String) : Number.IntegerFault → Fault
  | .malformed => .value (.integerText text)
  | .tooLong digits => .value (.integerTooLong digits)

end FloScript
