import FloScript.Proofs.Reading

/-! The grammar of expressions as a relation between phrases and runs of tokens. A rule sees the
tokens of its phrase and the kind of the token after them, so it says how far a phrase reaches as
well as what it stands for. -/
namespace FloScript

namespace Kind

/-- Kinds that begin an expression without a sign in front. -/
def opensPrimary (k : Kind) : Bool :=
  [number, string, trueWord, falseWord, nullWord, identifier, lparen, lbracket, lbrace,
    arrow].contains k

/-- Kinds that stand in front of an operand. -/
def isSign (k : Kind) : Bool := [not, minus, awaitWord].contains k

/-- Kinds that begin an expression. -/
def opensExpression (k : Kind) : Bool := k.opensPrimary || k.isSign

/-- Kinds that begin an access. -/
def opensAccess (k : Kind) : Bool := [dot, lparen, lbracket].contains k

/-- Kinds that go on with an expression which could also end before them. -/
def continues (k : Kind) : Bool :=
  k.opensAccess ||
    [question, assign, multiply, divide, modulo, plus, minus, lessThan, greaterThan, lessEqual,
     greaterEqual, equal, notEqual, and, or].contains k

end Kind

namespace Parser

variable {α : Type}

/-- The operators of each level, counted from the tightest. -/
def operatorsAt : Nat → List Kind
  | 0 => [.multiply, .divide, .modulo]
  | 1 => [.plus, .minus]
  | 2 => [.lessThan, .greaterThan, .lessEqual, .greaterEqual]
  | 3 => [.equal, .notEqual]
  | 4 => [.and]
  | 5 => [.or]
  | _ => []

/-- The number of levels. -/
def topTier : Nat := 6

/-- Operands joined by the operators of the lowest `n` levels. -/
def tierOf (unary : Parser Node) : Nat → Parser Node
  | 0 => unary
  | n + 1 => level (operatorsAt n) (tierOf unary n)

theorem disjunctionOf_eq_tierOf (unary : Parser Node) :
    disjunctionOf unary = tierOf unary topTier := rfl

/-- An item with what may stand around it. -/
def spaced (lines : Bool) (item : Parser α) : Parser α :=
  if lines then do
    skipNewlines
    let x ← commaAfter item
    skipNewlines
    return x
  else commaAfter item

theorem bracketItems_eq (close : Kind) (item : Parser α) :
    bracketItems close item = skipNewlines >>= fun _ => closedBy close (spaced true item) := rfl

/-- The expression that a token stands for alone. -/
def leaf? (t : Token) : Option Node :=
  match t.kind with
  | .number => some (.number t.value)
  | .string => some (.string t.value)
  | .trueWord => some (.boolean (.bool true))
  | .falseWord => some (.boolean (.bool false))
  | .nullWord => some .null
  | .identifier => some (.identifier t.text)
  | _ => none

/-- The types of what phrases stand for. -/
inductive Shape where
  | node
  | text
  | pair
  | list (s : Shape)

@[reducible] def Shape.Carrier : Shape → Type
  | node => Node
  | text => String
  | pair => Node × Node
  | list s => List s.Carrier

/-- The phrases of an expression. A `chain` is a level read up to some operator of its own, a
`spine` is a base with the accesses read so far; `items` end with a closing token, and newlines may
stand between them if `lines` is set. -/
inductive Phrase : Shape → Type where
  | expression : Phrase .node
  | ternary : Phrase .node
  | tier (n : Nat) : Phrase .node
  | chain (n : Nat) : Phrase .node
  | spine : Phrase .node
  | primary : Phrase .node
  | name : Phrase .text
  | pair : Phrase .pair
  | items {s : Shape} (close : Kind) (lines : Bool) (item : Phrase s) : Phrase (.list s)

namespace Phrase

@[reducible] def parameters : Phrase (.list .text) := items .rparen false name

@[reducible] def arguments : Phrase (.list .node) := items .rparen false expression

@[reducible] def elements : Phrase (.list .node) := items .rbracket true expression

@[reducible] def pairs : Phrase (.list .pair) := items .rbrace true pair

/-- The phrases of which there are lists. -/
inductive Listed : {s : Shape} → Phrase s → Prop where
  | expression : Listed .expression
  | name : Listed .name
  | pair : Listed .pair

end Phrase

/-- What stands between two items: a comma, or nothing in front of another token. -/
inductive Separator : List Token → Kind → Prop where
  | comma {c : Token} {k : Kind} : c.kind = .comma → Separator [c] k
  | nothing {k : Kind} : k ≠ .comma → Separator [] k

/-- The tokens spell the phrase when a token of the given kind follows them. -/
inductive Spells : {s : Shape} → Phrase s → s.Carrier → List Token → Kind → Prop where
  | assignment {name : String} {v : Node} {us vs : List Token} {e : Token} {k : Kind} :
      Spells .ternary (.identifier name) us .assign → e.kind = .assign → Spells .expression v vs k →
      Spells .expression (.assignment name v) (us ++ e :: vs) k
  | value {t : Node} {us : List Token} {k : Kind} :
      Spells .ternary t us k → k ≠ .assign → Spells .expression t us k
  | choice {c a b : Node} {us vs ws : List Token} {q s : Token} {k : Kind} :
      Spells (.tier topTier) c us .question → q.kind = .question → Spells .expression a vs .colon →
      s.kind = .colon → Spells .expression b ws k →
      Spells .ternary (.conditional c [a] (some [b])) (us ++ q :: (vs ++ s :: ws)) k
  | operation {t : Node} {us : List Token} {k : Kind} :
      Spells (.tier topTier) t us k → k ≠ .question → Spells .ternary t us k
  | operand {n : Nat} {t : Node} {us : List Token} {k : Kind} :
      Spells (.tier n) t us k → Spells (.chain n) t us k
  | binary {n : Nat} {l r : Node} {us vs : List Token} {o : Token} {k : Kind} :
      Spells (.chain n) l us o.kind → o.kind ∈ operatorsAt n → Spells (.tier n) r vs k →
      Spells (.chain n) (.binary l o.text r) (us ++ o :: vs) k
  | level {n : Nat} {t : Node} {us : List Token} {k : Kind} :
      Spells (.chain n) t us k → k ∉ operatorsAt n → Spells (.tier (n + 1)) t us k
  | unary {o : Token} {x : Node} {us : List Token} {k : Kind} :
      o.kind = .not ∨ o.kind = .minus → Spells (.tier 0) x us k →
      Spells (.tier 0) (.unary o.text x) (o :: us) k
  | await {o : Token} {x : Node} {us : List Token} {k : Kind} :
      o.kind = .awaitWord → Spells (.tier 0) x us k → Spells (.tier 0) (.await x) (o :: us) k
  | accessed {t : Node} {us : List Token} {k : Kind} :
      Spells .spine t us k → k.opensAccess = false → Spells (.tier 0) t us k
  | base {t : Node} {us : List Token} {k : Kind} : Spells .primary t us k → Spells .spine t us k
  | member {e : Node} {us : List Token} {d x : Token} {k : Kind} :
      Spells .spine e us .dot → d.kind = .dot → x.kind = .identifier →
      Spells .spine (.member e x.text) (us ++ [d, x]) k
  | call {e : Node} {xs : List Node} {us vs : List Token} {o : Token} {k : Kind} :
      Spells .spine e us .lparen → o.kind = .lparen → Spells .arguments xs vs k →
      Spells .spine (.call e xs) (us ++ o :: vs) k
  | index {e i : Node} {us vs : List Token} {o c : Token} {k : Kind} :
      Spells .spine e us .lbracket → o.kind = .lbracket → Spells .expression i vs .rbracket →
      c.kind = .rbracket → Spells .spine (.index e i) (us ++ o :: (vs ++ [c])) k
  | leaf {t : Token} {n : Node} {k : Kind} : leaf? t = some n → Spells .primary n [t] k
  | parenthesized {e : Node} {us : List Token} {o c : Token} {k : Kind} :
      o.kind = .lparen → Spells .expression e us .rparen → ahead us .rparen ≠ .identifier →
      c.kind = .rparen → Spells .primary e (o :: (us ++ [c])) k
  | skipped {ps : List String} {e : Node} {us vs : List Token} {o c : Token} {k : Kind} :
      o.kind = .lparen → Spells .parameters ps us (ahead vs .rparen) → ahead vs .rparen ≠ .arrow →
      Spells .expression e vs .rparen → c.kind = .rparen →
      Spells .primary e (o :: (us ++ (vs ++ [c]))) k
  | lambda {ps : List String} {e : Node} {us vs : List Token} {o a : Token} {k : Kind} :
      o.kind = .lparen → Spells .parameters ps us .arrow → a.kind = .arrow →
      Spells .expression e vs k → Spells .primary (Parser.lambda ps e) (o :: (us ++ a :: vs)) k
  | thunk {e : Node} {us : List Token} {a : Token} {k : Kind} :
      a.kind = .arrow → Spells .expression e us k → Spells .primary (Parser.lambda [] e) (a :: us) k
  | list {xs : List Node} {ns us : List Token} {o : Token} {k : Kind} :
      o.kind = .lbracket → (∀ n ∈ ns, n.kind = .newline) → ahead us k ≠ .newline →
      Spells .elements xs us k → Spells .primary (.list xs) (o :: (ns ++ us)) k
  | dict {ps : List (Node × Node)} {ns us : List Token} {o : Token} {k : Kind} :
      o.kind = .lbrace → (∀ n ∈ ns, n.kind = .newline) → ahead us k ≠ .newline →
      Spells .pairs ps us k → Spells .primary (.dict ps) (o :: (ns ++ us)) k
  | name {x : Token} {k : Kind} : x.kind = .identifier → Spells .name x.text [x] k
  | named {x c : Token} {v : Node} {us : List Token} {k : Kind} :
      x.kind = .identifier → c.kind = .colon → Spells .expression v us k →
      Spells .pair (.string (.text x.text), v) (x :: c :: us) k
  | keyed {key v : Node} {us vs : List Token} {c : Token} {k : Kind} :
      Spells .expression key us .colon → ahead us .colon ≠ .identifier → c.kind = .colon →
      Spells .expression v vs k → Spells .pair (key, v) (us ++ c :: vs) k
  | nil {s : Shape} {item : Phrase s} {close : Kind} {lines : Bool} {c : Token} {k : Kind} :
      c.kind = close → Spells (.items close lines item) [] [c] k
  | cons {s : Shape} {item : Phrase s} {close : Kind} {lines : Bool}
      {x : s.Carrier} {xs : List s.Carrier} {us cs ns vs : List Token} {k : Kind} :
      item.Listed → ahead (us ++ (cs ++ (ns ++ vs))) k ≠ close →
      (lines = true → ahead (us ++ (cs ++ (ns ++ vs))) k ≠ .newline) →
      Spells item x us (ahead (cs ++ (ns ++ vs)) k) → Separator cs (ahead (ns ++ vs) k) →
      (∀ n ∈ ns, n.kind = .newline) → (lines = false → ns = []) →
      (lines = true → ahead vs k ≠ .newline) → Spells (.items close lines item) xs vs k →
      Spells (.items close lines item) (x :: xs) (us ++ (cs ++ (ns ++ vs))) k

variable {s : Shape} {c : Phrase s} {a : s.Carrier} {us : List Token} {k : Kind}

theorem Spells.ne_nil (h : Spells c a us k) : us ≠ [] := by
  induction h <;> simp_all

/-- The kinds with which a phrase can begin. -/
def Phrase.Opens : {s : Shape} → Phrase s → Kind → Prop
  | _, .spine, k | _, .primary, k => k.opensPrimary = true
  | _, .name, k => k = .identifier
  | _, .items close _ item, k => k = close ∨ item.Opens k
  | _, _, k => k.opensExpression = true

theorem opensPrimary_of_leaf {t : Token} {n : Node} (h : leaf? t = some n) :
    t.kind.opensPrimary = true := by
  unfold leaf? at h
  split at h <;> simp_all [Kind.opensPrimary]

theorem opensExpression_of_opensPrimary (h : k.opensPrimary = true) : k.opensExpression = true := by
  simp [Kind.opensExpression, h]

theorem Spells.opens (h : Spells c a us k) : c.Opens (ahead us k) := by
  induction h with
  | unary ho _ _ => rcases ho with ho | ho <;> simp [Phrase.Opens, ho] <;> decide
  | await ho _ _ => simp [Phrase.Opens, ho]; decide
  | accessed _ _ ih => exact opensExpression_of_opensPrimary ih
  | leaf h => exact opensPrimary_of_leaf h
  | _ => simp_all [Phrase.Opens] <;> decide

theorem not_mem_operatorsAt (hk : k.continues = false) (n : Nat) : k ∉ operatorsAt n := by
  revert hk
  match n with
  | 0 | 1 | 2 | 3 | 4 | 5 => cases k <;> decide
  | n + 6 => simp [operatorsAt]

/-- A phrase is closed by every token that does not go on with it. -/
theorem Spells.before (h : Spells c a us k) {j : Kind} (hj : j.continues = false) :
    Spells c a us j := by
  induction h with
  | assignment h e _ _ ih => exact .assignment h e ih
  | value _ _ ih => exact .value ih (by rintro rfl; simp [Kind.continues] at hj)
  | choice hc hq ha hs _ _ _ ih => exact .choice hc hq ha hs ih
  | operation _ _ ih => exact .operation ih (by rintro rfl; simp [Kind.continues] at hj)
  | operand _ ih => exact .operand ih
  | binary hl ho _ _ ih => exact .binary hl ho ih
  | level _ _ ih => exact .level ih (not_mem_operatorsAt hj _)
  | unary ho _ ih => exact .unary ho ih
  | await ho _ ih => exact .await ho ih
  | accessed _ _ ih => exact .accessed ih (by simp_all [Kind.continues])
  | base _ ih => exact .base ih
  | member h hd hx _ => exact .member h hd hx
  | call h ho _ _ ih => exact .call h ho ih
  | index h ho hi hc => exact .index h ho hi hc
  | leaf h => exact .leaf h
  | parenthesized ho h hi hc => exact .parenthesized ho h hi hc
  | skipped ho hp hv h hc => exact .skipped ho hp hv h hc
  | lambda ho hp ha _ _ ih => exact .lambda ho hp ha ih
  | thunk ha _ ih => exact .thunk ha ih
  | list ho hn hu h ih => exact .list ho hn (by rwa [ahead_of_ne_nil h.ne_nil _ _]) ih
  | dict ho hn hu h ih => exact .dict ho hn (by rwa [ahead_of_ne_nil h.ne_nil _ _]) ih
  | name h => exact .name h
  | named hx hc _ ih => exact .named hx hc ih
  | keyed hk hi hc _ _ ih => exact .keyed hk hi hc ih
  | nil h => exact .nil h
  | cons hi hc hl hx hs hn hf hv h _ ih =>
    -- the closing token lies inside the items, so nothing of them sees what follows
    have hne := h.ne_nil
    rw [ahead_of_ne_nil (by simp [hne]) _ j] at hc hl hx hs
    rw [ahead_of_ne_nil hne _ j] at hv
    exact .cons hi hc hl hx hs hn hf hv ih

/-- An operand of a tight level is one of a looser level if no operator between them follows. -/
theorem Spells.loosen {m n : Nat} {t : Node} (h : Spells (.tier m) t us k) (hmn : m ≤ n)
    (hk : ∀ j, m ≤ j → j < n → k ∉ operatorsAt j) : Spells (.tier n) t us k := by
  induction hmn with
  | refl => exact h
  | @step n hmn ih =>
    have hn := ih fun j hj hjn => hk j hj (by omega)
    exact .level (.operand hn) (hk n hmn (by omega))

theorem Spells.ofTier {m : Nat} {t : Node} (h : Spells (.tier m) t us k) (hm : m ≤ topTier)
    (hk : k.continues = false) : Spells .expression t us k := by
  have ht := h.loosen hm fun j _ _ => not_mem_operatorsAt hk j
  exact .value (.operation ht (by rintro rfl; cases hk)) (by rintro rfl; cases hk)

theorem Spells.ofPrimary {t : Node} (h : Spells .primary t us k) (hk : k.continues = false) :
    Spells .expression t us k := by
  have ha : k.opensAccess = false := by
    simp only [Kind.continues, Bool.or_eq_false_iff] at hk
    exact hk.1
  exact Spells.ofTier (.accessed (.base h) ha) (by decide) hk

end Parser
end FloScript
