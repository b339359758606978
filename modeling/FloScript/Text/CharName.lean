import FloScript.Text.CharName.Aliases
import FloScript.Text.CharName.Alphabets
import FloScript.Text.CharName.Ancient
import FloScript.Text.CharName.East
import FloScript.Text.CharName.Figures
import FloScript.Text.CharName.Modern
import FloScript.Text.CharName.Pictures
import FloScript.Text.CharName.Syllables
import FloScript.Text.CharName.Symbols
import FloScript.Text.CharName.Words

/-! Names of characters. Syllables of the Korean alphabet and ideographs have names by rule, all
others by tables. In the tables small letters count as capitals, and many words are abbreviated. -/
namespace FloScript.Text.CharName

def tables : List String :=
  [alphabets, syllables, symbols, east, ancient, modern, figures, pictures, aliases]

/-- The text of a table with its broken rows joined. The rest of such a row is indented by five. -/
def joined (table : String) : String :=
  table.replace "\n     " ""

/-- The words that have abbreviations, with these. -/
def abbreviations : List (String × String) :=
  ((joined words).splitOn ";").filterMap fun entry =>
    match entry.splitOn " " with
    | [short, word] => some (word, short)
    | _ => none

/-- A name with abbreviations for the words that have one. -/
def abbreviated (name : List Char) : List Char :=
  let short := abbreviations
  (" ".intercalate (((String.ofList name).splitOn " ").map fun word =>
    (short.lookup word).getD word)).toList

/-- The value of a digit to the base sixteen, written with a capital letter. -/
def hexDigit? (c : Char) : Option Nat :=
  if c.isDigit then some (c.toNat - 48)
  else if 'A' ≤ c && c ≤ 'F' then some (c.toNat - 55)
  else none

/-- The number that digits to the base sixteen stand for. -/
def hexNumber? (cs : List Char) : Option Nat :=
  cs.foldlM (fun n c => (hexDigit? c).map (16 * n + ·)) 0

/-- The number of a name that has a part from each column, among all such names. They are counted
from the last column or from the first. -/
def inColumns? (fromLast : Bool) : List (List String) → List Char → Option Nat
  | [], cs => if cs.isEmpty then some 0 else none
  | column :: columns, cs =>
    column.zipIdx.findSome? fun (part, i) => do
      let n ← inColumns? fromLast columns (← part.toList.isPrefixOf? cs)
      return if fromLast then columns.foldr (·.length * ·) i + n else i + column.length * n

/-- The code that a row of a table gives to a name. A row has a code and columns with parts of
names, which belong to the characters from that code on. A slash after the code tells that they are
counted from the first column. -/
def inRow? (name : List Char) (row : String) : Option Nat := do
  let columns := row.splitOn "|"
  let (code, fromLast, columns) ← match columns.head?.map (·.splitOn "/") with
    | some [code] => some (code, true, columns.tail)
    | some [code, start] => some (code, false, start :: columns.tail)
    | _ => none
  let first ← hexNumber? (code.toList.dropWhile (· = ' '))
  return first + (← inColumns? fromLast (columns.map (·.splitOn ";")) name)

def inTable? (name : List Char) (table : String) : Option Nat :=
  ((joined table).splitOn "\n").findSome? (inRow? name)

/-! ### Syllables -/

def initials : List String :=
  ["G", "GG", "N", "D", "DD", "R", "M", "B", "BB", "S", "SS", "", "J", "JJ", "C", "K", "T", "P",
    "H"]

def vowels : List String :=
  ["A", "AE", "YA", "YAE", "EO", "E", "YEO", "YE", "O", "WA", "WAE", "OE", "YO", "U", "WEO", "WE",
   "WI", "YU", "EU", "YI", "I"]

def finals : List String :=
  ["", "G", "GG", "GS", "N", "NJ", "NH", "D", "L", "LG", "LM", "LB", "LS", "LT", "LP", "LH", "M",
   "B", "BS", "S", "SS", "NG", "J", "C", "K", "T", "P", "H"]

/-- The longest of some sounds with which a text begins: its number and the rest of the text. -/
def longestSound? (sounds : List String) (cs : List Char) : Option (Nat × List Char) :=
  sounds.zipIdx.foldl (fun found (sound, i) =>
    match sound.toList.isPrefixOf? cs with
    | some rest => if found.all (rest.length < ·.2.length) then some (i, rest) else found
    | none => found) none

/-- The code of a syllable from its sounds. -/
def syllable? (cs : List Char) : Option Nat := do
  let (i, cs) ← longestSound? initials cs
  let (v, cs) ← longestSound? vowels cs
  let (f, cs) ← longestSound? finals cs
  if cs.isEmpty then some (0xAC00 + (i * vowels.length + v) * finals.length + f) else none

/-! ### Ideographs -/

def ideographRanges : List (Nat × Nat) :=
  [(0x3400, 0x4DBF), (0x4E00, 0x9FFF), (0x20000, 0x2A6DF), (0x2A700, 0x2B738), (0x2B740, 0x2B81D),
   (0x2B820, 0x2CEA1), (0x2CEB0, 0x2EBE0), (0x30000, 0x3134A)]

/-- The code of an ideograph from four or five digits. -/
def ideograph? (cs : List Char) : Option Nat := do
  let n ← hexNumber? cs
  if (cs.length = 4 || cs.length = 5) && ideographRanges.any (fun r => r.1 ≤ n && n ≤ r.2)
    then some n else none

/-! ### Tables and numbered names -/

/-- Names that end with the code of the character, and the ranges of these codes. -/
def numbered : List (String × List (Nat × Nat)) :=
  [("CJK COMPATIBILITY IDEOGRAPH-", [(0xF900, 0xFA6D), (0xFA70, 0xFAD9), (0x2F800, 0x2FA1D)]),
   ("KHITAN SMALL SCRIPT CHARACTER-", [(0x18B00, 0x18CD5)]),
   ("NUSHU CHARACTER-", [(0x1B170, 0x1B2FB)])]

/-- The code at the end of a numbered name. It has four digits if these are enough, and otherwise
five. -/
def numbered? (name : List Char) : Option Nat :=
  numbered.findSome? fun (start, ranges) => do
    let digits ← start.toList.isPrefixOf? name
    let n ← hexNumber? digits
    if digits.length = (if n < 0x10000 then 4 else 5) && ranges.any (fun r => r.1 ≤ n && n ≤ r.2)
      then some n else none

/-- The code of a character from a name in capitals that stands in a table or is numbered. -/
def listed? (name : List Char) : Option Nat :=
  let short := abbreviated name
  (numbered? name).or (tables.findSome? (inTable? short))

/-- The code of the character with a name. -/
def code? (name : String) : Option Nat :=
  let cs := name.toList
  match "HANGUL SYLLABLE ".toList.isPrefixOf? cs,
      "CJK UNIFIED IDEOGRAPH-".toList.isPrefixOf? cs with
  | some rest, _ => syllable? rest
  | none, some rest => ideograph? rest
  | none, none => listed? (cs.map Char.toUpper)

end FloScript.Text.CharName
