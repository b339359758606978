import FloScript.Text.Visible

/-! Quoted text: a text between quotes, with escapes for the quote, the backslash and what is not
visible. Single quotes are used unless the text has single quotes and no double ones. -/
namespace FloScript.Text

/-- The last `width` hexadecimal digits of a number, in small letters. -/
def hexDigits (width n : Nat) : List Char :=
  let ds := Nat.toDigits 16 n
  List.replicate (width - ds.length) '0' ++ ds

/-- The escape of a character by its code point: two, four or eight hexadecimal digits. -/
def codeEscape (c : Char) : List Char :=
  let n := c.toNat
  if n < 0x100 then '\\' :: 'x' :: hexDigits 2 n
  else if n < 0x10000 then '\\' :: 'u' :: hexDigits 4 n
  else '\\' :: 'U' :: hexDigits 8 n

/-- A character inside quotes. -/
def quotedChar (quote : Char) (shown : Char → Bool) (c : Char) : List Char :=
  if c = quote || c = '\\' then ['\\', c]
  else if c = '\n' then ['\\', 'n']
  else if c = '\r' then ['\\', 'r']
  else if c = '\t' then ['\\', 't']
  else if shown c then [c]
  else codeEscape c

/-- A text between quotes; the characters of the class `shown` stand as they are. -/
def quoteWith (shown : Char → Bool) (s : String) : String :=
  let cs := s.toList
  let quote := if cs.contains '\x27' && !cs.contains '\x22' then '\x22' else '\x27'
  String.ofList (quote :: cs.flatMap (quotedChar quote shown) ++ [quote])

/-- A text between quotes. -/
def quote (s : String) : String := quoteWith isVisible s

/-- A text already quoted, with every character outside ASCII replaced by its escape. -/
def escapeNonAscii (s : String) : String :=
  String.ofList (s.toList.flatMap fun c => if isAscii c then [c] else codeEscape c)

end FloScript.Text
