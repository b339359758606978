import FloScript.Text.Blank
import FloScript.Text.Case
import FloScript.Text.Word

/-! Patterns of texts and how they match. Matching tries the alternatives of a pattern in their
order: `run p k s` matches `p` at `s` and hands every place where it can end to `k`, until `k`
succeeds. -/
namespace FloScript

/-- Classes of characters with a letter of their own. -/
inductive Category where
  | digit | blank | word
  deriving DecidableEq, Repr

/-- Whether a character is in a class, or in the ASCII part of it. -/
def Category.holds (k : Category) (ascii : Bool) (c : Char) : Bool :=
  let isIn := match k with
    | digit => (Text.decimalValue? c).isSome
    | blank => if ascii then c = ' ' || ('\t' ≤ c && c ≤ '\r') else Text.isBlank c
    | word => Text.isWordChar c
  isIn && (!ascii || Text.isAscii c)

/-- A test on one character. -/
inductive CharTest where
  | code (n : Nat)
  | range (least greatest : Nat)
  | category (k : Category) (negated ascii : Bool)
  deriving DecidableEq, Repr

/-- Which letters count as equal whatever their case. -/
inductive Fold where
  | none | ascii | full
  deriving DecidableEq, Repr

/-- The small letter of a character whose case does not matter. -/
def Fold.small : Fold → Char → Char
  | none, c => c
  | ascii, c => c.toLower
  | full, c => Text.smallLetter c

/-- The characters that count as equal to a character. -/
def Fold.forms : Fold → Char → List Char
  | none, c => [c]
  | ascii, c => [c.toLower, c.toUpper]
  | full, c => Text.lettersLike c

/-- A set of characters: those that pass one of some tests, or those that pass none. -/
structure CharSet where
  negated : Bool
  tests : List CharTest
  fold : Fold
  deriving DecidableEq, Repr

/-- The number of code points in the first plane. -/
def planeSize : Nat := 0x10000

/-- Whether a character passes a test. Beyond the first plane letters are folded in another way: a
code is compared with the small letter only, and a range with the small letter and its capital. -/
def CharTest.holds (fold : Fold) (c : Char) : CharTest → Bool
  | code n => if n < planeSize then (fold.forms c).any (·.toNat = n) else (fold.small c).toNat = n
  | range least greatest =>
    let within (d : Char) : Bool := least ≤ d.toNat && d.toNat ≤ greatest
    (fold.forms c).any within ||
      (fold ≠ .none && planeSize ≤ greatest && within (Text.capitalLetter (fold.small c)))
  | category k negated ascii => k.holds ascii c != negated

/-- Whether a character is in a set. A set of one code holds all forms of it. -/
def CharSet.contains (s : CharSet) (c : Char) : Bool :=
  let passes := match s.tests with
    | [.code n] => (s.fold.forms c).any (·.toNat = n)
    | tests => tests.any (CharTest.holds s.fold c)
  passes != s.negated

/-- Conditions on a place in a text. -/
inductive Anchor where
  | textStart | lineStart | textEnd | lineEnd | finalEnd
  | boundary (wanted ascii : Bool)
  deriving DecidableEq, Repr

/-- How a repetition chooses the number of rounds. -/
inductive Greed where
  | greedy | lazy | possessive
  deriving DecidableEq, Repr

/-- A pattern. -/
inductive Pattern where
  | empty
  | one (s : CharSet)
  | anchor (a : Anchor)
  | cat (p q : Pattern)
  | alt (p q : Pattern)
  | group (n : Nat) (p : Pattern)
  | backref (n : Nat) (fold : Fold)
  | times (p : Pattern) (least : Nat) (most : Option Nat) (greed : Greed)
  | look (behind : Option Nat) (wanted : Bool) (p : Pattern)
  | choice (n : Nat) (yes no : Pattern)
  | atomic (p : Pattern)
  deriving Repr, Inhabited

namespace Pattern

/-- A place in a text, with what the groups have matched: the characters before it, last one first,
and those after it. -/
structure Place where
  before : List Char
  rest : List Char
  groups : List (Nat × List Char)

def Place.ofText (s : String) : Place := ⟨[], s.toList, []⟩

/-- Goes on by one character. -/
def Place.next? (s : Place) : Option (Char × Place) :=
  match s.rest with
  | [] => none
  | c :: cs => some (c, { s with before := c :: s.before, rest := cs })

/-- Goes on over the given characters, if they stand there. -/
def Place.over? (eq : Char → Char → Bool) : List Char → Place → Option Place
  | [], s => some s
  | c :: cs, s =>
    match s.next? with
    | some (d, s) => if eq c d then Place.over? eq cs s else none
    | none => none

/-- Goes back by a number of characters. -/
def Place.back? : Nat → Place → Option Place
  | 0, s => some s
  | n + 1, s =>
    match s.before with
    | [] => none
    | c :: cs => Place.back? n { s with before := cs, rest := c :: s.rest }

/-- Records what a group matched between two places. -/
def Place.capture (n : Nat) (start stop : Place) : Place :=
  { stop with groups := (n, start.rest.take (start.rest.length - stop.rest.length)) :: stop.groups }

def Place.captured? (s : Place) (n : Nat) : Option (List Char) := s.groups.lookup n

/-- Whether a word begins or ends at a place. -/
def Place.atBoundary (s : Place) (ascii : Bool) : Bool :=
  s.before.head?.any (Category.word.holds ascii) != s.rest.head?.any (Category.word.holds ascii)

def Place.isEmptyText (s : Place) : Bool := s.before.isEmpty && s.rest.isEmpty

/-- Whether a condition holds at a place. -/
def Place.satisfies (s : Place) : Anchor → Bool
  | .textStart => s.before.isEmpty
  | .lineStart => s.before.isEmpty || s.before.head? == some '\n'
  | .textEnd => s.rest.isEmpty
  | .lineEnd => s.rest.isEmpty || s.rest.head? == some '\n'
  | .finalEnd => s.rest.isEmpty || s.rest == ['\n']
  | .boundary wanted ascii => !s.isEmptyText && s.atBoundary ascii == wanted

/-- What is done with a place where a pattern can end. -/
abbrev Continuation := Place → Option Place

/-- Whether one more round is allowed. -/
def mayRepeat (most : Option Nat) (count : Nat) : Bool := most.all (count < ·)

/-- Repeats as often as possible. After the least number of rounds a round must begin at a new
place: `last` is the number of characters that were left when the round before began. -/
def greedyRounds (body : Continuation → Continuation) (least : Nat)
    (most : Option Nat) (k : Continuation) :
    Nat → Nat → Option Nat → Continuation
  | 0, _, _ => k
  | n + 1, count, last => fun s =>
    let left := s.rest.length
    if count < least then body (greedyRounds body least most k n (count + 1) last) s
    else if mayRepeat most count && last != some left then
      body (greedyRounds body least most k n (count + 1) (some left)) s <|> k s
    else k s

/-- Repeats as seldom as possible. -/
def lazyRounds (body : Continuation → Continuation) (least : Nat)
    (most : Option Nat) (k : Continuation) :
    Nat → Nat → Option Nat → Continuation
  | 0, _, _ => k
  | n + 1, count, last => fun s =>
    let left := s.rest.length
    if count < least then body (lazyRounds body least most k n (count + 1) last) s
    else
      k s <|>
        if mayRepeat most count && last != some left then
          body (lazyRounds body least most k n (count + 1) (some left)) s
        else none

/-- The rounds that a repetition can take at a place. -/
def roundsAt (least : Nat) (s : Place) : Nat := least + s.rest.length + 2

/-- Matches a pattern at a place and goes on with `k`. -/
def run : Pattern → Continuation → Continuation
  | empty, k => k
  | one set, k => fun s =>
    match s.next? with
    | some (c, t) => if set.contains c then k t else none
    | none => none
  | anchor a, k => fun s => if s.satisfies a then k s else none
  | cat p q, k => run p (run q k)
  | alt p q, k => fun s => run p k s <|> run q k s
  | group n p, k => fun s => run p (fun t => k (Place.capture n s t)) s
  | backref n fold, k => fun s =>
    match s.captured? n with
    | none => none
    | some cs =>
      (Place.over? (fun c d => fold.small c = fold.small d) cs s).bind k
  | times p least most .greedy, k =>
    fun s => greedyRounds (run p) least most k (roundsAt least s) 0 none s
  | times p least most .lazy, k =>
    fun s => lazyRounds (run p) least most k (roundsAt least s) 0 none s
  | times p least most .possessive, k => fun s =>
    (greedyRounds (run p) least most some (roundsAt least s) 0 none s).bind k
  | look behind wanted p, k => fun s =>
    let found := (Place.back? (behind.getD 0) s).bind (run p some)
    match found, wanted with
    | some t, true => k { s with groups := t.groups }
    | none, false => k s
    | _, _ => none
  | choice n yes no, k => fun s => if (s.captured? n).isSome then run yes k s else run no k s
  | atomic p, k => fun s => (run p some s).bind k

/-- Where a pattern ends that matches at the beginning of a text. -/
def match? (p : Pattern) (s : String) : Option Place := run p some (Place.ofText s)

end Pattern
end FloScript
