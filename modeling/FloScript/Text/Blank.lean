import FloScript.Text.Ranges

/-! Blank characters, and texts without the blanks around them. -/
namespace FloScript.Text

/-- The blanks outside ASCII. -/
def blankRanges : List (Nat × Nat) :=
  [(133, 133), (160, 160), (5760, 5760), (8192, 8202), (8232, 8233), (8239, 8239), (8287, 8287),
   (12288, 12288)]

/-- The ASCII characters that separate words: tab to carriage return, and the space. -/
def isAsciiBlank (c : Char) : Bool :=
  c = ' ' || (9 ≤ c.toNat && c.toNat ≤ 13)

/-- Whether a character is blank: white space of any script or one of the four ASCII separators. -/
def isBlank (c : Char) : Bool :=
  if isAscii c then isAsciiBlank c || (28 ≤ c.toNat && c.toNat ≤ 31) else inRanges blankRanges c

/-- A text without the characters of a class at its two ends. -/
def trimBy (p : Char → Bool) (cs : List Char) : List Char :=
  ((cs.dropWhile p).reverse.dropWhile p).reverse

/-- A text without the blanks at its two ends. -/
def trim (s : String) : String := String.ofList (trimBy isBlank s.toList)

end FloScript.Text
