/-! Reading bytes as UTF-8. -/
namespace FloScript.Text.Utf8

/-- Why bytes are not UTF-8. -/
inductive Problem where
  | start | continuation | ending
  deriving DecidableEq, Repr

def Problem.message : Problem → String
  | start => "invalid start byte"
  | continuation => "invalid continuation byte"
  | ending => "unexpected end of data"

/-- Bytes that are not UTF-8: the first of them, and where they begin and end. -/
structure Malformed where
  problem : Problem
  byte : Nat
  start : Nat
  stop : Nat
  deriving DecidableEq, Repr

/-- What malformed bytes are called. -/
def Malformed.message (m : Malformed) : String :=
  let hex := String.ofList (Nat.toDigits 16 m.byte)
  let what := if m.stop = m.start + 1 then "byte 0x" ++ hex ++ " in position " ++ toString m.start
    else "bytes in position " ++ toString m.start ++ "-" ++ toString (m.stop - 1)
  "'utf-8' codec can't decode " ++ what ++ ": " ++ m.problem.message

/-- A character of which some bytes are read: its first byte and where that stands, the code so far,
the number of bytes owed, and the bounds of the next one. -/
structure Pending where
  byte : Nat
  start : Nat
  code : Nat
  owed : Nat
  least : Nat
  greatest : Nat

/-- What a first byte begins; none if it cannot be one. -/
def pending? (index b : Nat) : Option Pending :=
  if 0xC2 ≤ b && b ≤ 0xDF then some ⟨b, index, b - 0xC0, 1, 0x80, 0xBF⟩
  else if 0xE0 ≤ b && b ≤ 0xEF then
    some ⟨b, index, b - 0xE0, 2, if b = 0xE0 then 0xA0 else 0x80, if b = 0xED then 0x9F else 0xBF⟩
  else if 0xF0 ≤ b && b ≤ 0xF4 then
    some ⟨b, index, b - 0xF0, 3, if b = 0xF0 then 0x90 else 0x80, if b = 0xF4 then 0x8F else 0xBF⟩
  else none

/-- Reads the bytes from a place on. -/
def decodeFrom : Nat → Option Pending → List UInt8 → Except Malformed (List Char)
  | _, none, [] => .ok []
  | index, some p, [] => .error ⟨.ending, p.byte, p.start, index⟩
  | index, none, b :: bs =>
    let b := b.toNat
    if b < 0x80 then do return Char.ofNat b :: (← decodeFrom (index + 1) none bs)
    else
      match pending? index b with
      | some p => decodeFrom (index + 1) (some p) bs
      | none => .error ⟨.start, b, index, index + 1⟩
  | index, some p, b :: bs =>
    let b := b.toNat
    if p.least ≤ b && b ≤ p.greatest then
      let code := p.code * 64 + b % 64
      if p.owed ≤ 1 then do return Char.ofNat code :: (← decodeFrom (index + 1) none bs)
      else
        decodeFrom (index + 1)
          (some { p with code := code, owed := p.owed - 1, least := 0x80, greatest := 0xBF }) bs
    else .error ⟨.continuation, p.byte, p.start, index⟩

/-- The characters of UTF-8 bytes. -/
def decode (bs : List UInt8) : Except Malformed (List Char) := decodeFrom 0 none bs

/-- Ends every line with a line feed, however it was ended; `after` tells whether a carriage return
comes right before. -/
def plainLines (after : Bool) : List Char → List Char
  | [] => []
  | c :: cs =>
    if c = '\r' then '\n' :: plainLines true cs
    else if c = '\n' && after then plainLines false cs
    else c :: plainLines false cs

end FloScript.Text.Utf8
