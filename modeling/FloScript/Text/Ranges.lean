/-! Membership in a table of code point ranges, the form in which character properties are given. -/
namespace FloScript.Text

/-- Whether a character lies in one of the closed code point ranges of a table. -/
def inRanges (table : List (Nat × Nat)) (c : Char) : Bool :=
  table.any fun r => r.1 ≤ c.toNat && c.toNat ≤ r.2

/-- Whether a character is one of the first 128 code points. -/
def isAscii (c : Char) : Bool := c.toNat < 128

end FloScript.Text
