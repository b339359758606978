/-! The kinds of tokens and the names by which messages call them. -/
namespace FloScript

/-- What a token is. Some kinds are reserved: no source text yields them. -/
inductive Kind where
  | number | string | identifier
  | ifWord | elseWord | whileWord | forWord | funcWord | returnWord | trueWord | falseWord
  | nullWord
  | importWord | exportWord | classWord | traitWord | matchWord | ofWord | asyncWord | awaitWord
  | tryWord | catchWord | finallyWord
  | plus | minus | multiply | divide | modulo | assign | equal | notEqual
  | lessThan | greaterThan | lessEqual | greaterEqual | and | or | not
  | arrow | fatArrow | question | colon | dot
  | lparen | rparen | lbrace | rbrace | lbracket | rbracket | comma | semicolon | newline
  | atSign | hash | eof | unknown
  deriving DecidableEq, Repr, Inhabited

namespace Kind

/-- The name of a kind in messages. -/
def name : Kind → String
  | number => "NUMBER"
  | string => "STRING"
  | identifier => "IDENTIFIER"
  | ifWord => "IF"
  | elseWord => "ELSE"
  | whileWord => "WHILE"
  | forWord => "FOR"
  | funcWord => "FUNC"
  | returnWord => "RETURN"
  | trueWord => "TRUE"
  | falseWord => "FALSE"
  | nullWord => "NULL"
  | importWord => "IMPORT"
  | exportWord => "EXPORT"
  | classWord => "CLASS"
  | traitWord => "TRAIT"
  | matchWord => "MATCH"
  | ofWord => "OF"
  | asyncWord => "ASYNC"
  | awaitWord => "AWAIT"
  | tryWord => "TRY"
  | catchWord => "CATCH"
  | finallyWord => "FINALLY"
  | plus => "PLUS"
  | minus => "MINUS"
  | multiply => "MULTIPLY"
  | divide => "DIVIDE"
  | modulo => "MODULO"
  | assign => "ASSIGN"
  | equal => "EQUAL"
  | notEqual => "NOT_EQUAL"
  | lessThan => "LESS_THAN"
  | greaterThan => "GREATER_THAN"
  | lessEqual => "LESS_EQUAL"
  | greaterEqual => "GREATER_EQUAL"
  | and => "AND"
  | or => "OR"
  | not => "NOT"
  | arrow => "ARROW"
  | fatArrow => "FAT_ARROW"
  | question => "QUESTION"
  | colon => "COLON"
  | dot => "DOT"
  | lparen => "LPAREN"
  | rparen => "RPAREN"
  | lbrace => "LBRACE"
  | rbrace => "RBRACE"
  | lbracket => "LBRACKET"
  | rbracket => "RBRACKET"
  | comma => "COMMA"
  | semicolon => "SEMICOLON"
  | newline => "NEWLINE"
  | atSign => "AT"
  | hash => "HASH"
  | eof => "EOF"
  | unknown => "UNKNOWN"

/-- Every kind. -/
def all : List Kind :=
  [number, string, identifier, ifWord, elseWord, whileWord, forWord, funcWord, returnWord, trueWord,
   falseWord, nullWord, importWord, exportWord, classWord, traitWord, matchWord, ofWord, asyncWord,
   awaitWord, tryWord, catchWord, finallyWord, plus, minus, multiply, divide, modulo, assign, equal,
   notEqual, lessThan, greaterThan, lessEqual, greaterEqual, and, or, not,
   arrow, fatArrow, question, colon, dot, lparen, rparen, lbrace, rbrace, lbracket, rbracket, comma,
   semicolon, newline, atSign, hash, eof, unknown]

/-- The kind with a given name. -/
def ofName? (s : String) : Option Kind := all.find? fun k => k.name = s

/-- The words of the language that are not names. -/
def keywords : List (String × Kind) :=
  [("if", ifWord), ("else", elseWord), ("while", whileWord), ("for", forWord), ("func", funcWord),
   ("return", returnWord), ("true", trueWord), ("false", falseWord), ("null", nullWord),
   ("import", importWord), ("export", exportWord), ("class", classWord), ("trait", traitWord),
   ("match", matchWord), ("of", ofWord), ("async", asyncWord),
   ("await", awaitWord), ("try", tryWord), ("catch", catchWord), ("finally", finallyWord)]

/-- The kind of a word: a keyword, or a name. -/
def ofWordText (s : String) : Kind := (keywords.lookup s).getD identifier

/-- The operators of two characters. -/
def pairOperator? : Char → Char → Option Kind
  | '=', '>' => some arrow
  | '=', '=' => some equal
  | '!', '=' => some notEqual
  | '<', '=' => some lessEqual
  | '>', '=' => some greaterEqual
  | '&', '&' => some and
  | '|', '|' => some or
  | _, _ => none

/-- The operators and delimiters of one character. -/
def operator? : Char → Option Kind
  | '+' => some plus
  | '-' => some minus
  | '*' => some multiply
  | '/' => some divide
  | '%' => some modulo
  | '=' => some assign
  | '<' => some lessThan
  | '>' => some greaterThan
  | '!' => some not
  | '?' => some question
  | ':' => some colon
  | '.' => some dot
  | '(' => some lparen
  | ')' => some rparen
  | '\x7b' => some lbrace
  | '\x7d' => some rbrace
  | '[' => some lbracket
  | ']' => some rbracket
  | ',' => some comma
  | ';' => some semicolon
  | '@' => some atSign
  | _ => none

end Kind
end FloScript
