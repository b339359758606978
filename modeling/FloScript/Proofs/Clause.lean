import FloScript.Proofs.Recognition

/-! The grammar of statements as a relation between clauses and runs of tokens. As with expressions,
a rule sees the tokens of its clause and the kind of the token after them. -/
namespace FloScript.Parser

variable {α β : Type}

section Parts

/-- A name, if one comes next. -/
def optionalName : Parser (Option String) := do
  let t ← current
  if t.kind = .identifier then
    discard advance
    return some t.text
  else return none

/-- Items in parentheses, if an opening parenthesis comes next. -/
def optionalItems (item : Parser α) : Parser (List α) := do
  if ← accept .lparen then closedBy .rparen (commaAfter item) else return []

/-- A block after newlines and a word, if that word comes next. -/
def wordBlock (word : Kind) (statement : Parser Node) : Parser (Option (List Node)) := do
  skipNewlines
  if ← accept word then return some (← blockOf statement)
  return none

/-- The catch clause of an attempt, if there is one. -/
def catchOf (statement : Parser Node) : Parser (Option String × Option (List Node)) := do
  skipNewlines
  if ← accept .catchWord then
    let name ← optionalName
    return (name, some (← blockOf statement))
  return (none, none)

/-- A statement that begins with a token of the given kind. -/
def formAt (statement : Parser Node) : Kind → Parser Node
  | .atSign => decoratedOf statement
  | .ifWord => ifOf statement
  | .whileWord => whileOf statement
  | .forWord => forOf statement
  | .funcWord => functionOf statement
  | .returnWord => returnStatement
  | .tryWord => tryOf statement
  | _ => do
    let e ← expression
    let k ← currentKind
    if k = .semicolon || k = .newline then discard advance
    return e

/-- A statement with no newlines in front. -/
def formOf (statement : Parser Node) : Parser Node := currentKind >>= formAt statement

/-- A statement and the newlines after it. -/
def lineOf (statement : Parser Node) : Parser Node := do
  let s ← statement
  skipNewlines
  return s

variable (S : Parser Node)

theorem ite_then {c : Prop} [Decidable c] (p q : Parser α) (f : α → Parser β) :
    (if c then p else q) >>= f = if c then p >>= f else q >>= f := by
  split <;> rfl

theorem statementWithin_succ (n : Nat) :
    statementWithin (n + 1) = skipNewlines >>= fun _ => formOf (statementWithin n) := rfl

theorem functionOf_eq : functionOf S = (do
    let isAsync ← accept .asyncWord
    discard (expect .funcWord)
    let name ← optionalName
    let ps ← optionalItems (return (← expect .identifier).text)
    if ← accept .arrow then
      let e ← expression
      return .function name ps [.returning (some e)] isAsync
    else return .function name ps (← blockOf S) isAsync) := by
  simp only [functionOf, optionalName, optionalItems, ite_then, bind_assoc, pure_bind,
    discard_bind, parameters]

theorem tryOf_eq : tryOf S = (do
    discard (expect .tryWord)
    let body ← blockOf S
    let (caught, handler) ← catchOf S
    let final ← wordBlock .finallyWord S
    return .trying body caught handler final) := by
  simp only [tryOf, catchOf, wordBlock, optionalName, ite_then, bind_assoc, pure_bind, discard_bind]

theorem decoratorBody_eq : decoratorBody = (do
    let name ← expect .identifier
    let args ← optionalItems expression
    skipNewlines
    return .decorator name.text args) := by
  simp only [decoratorBody, optionalItems, ite_then, bind_assoc, pure_bind]

end Parts

/-- Newlines and nothing else. -/
abbrev Newlines (ns : List Token) : Prop := ∀ n ∈ ns, n.kind = .newline

@[simp] theorem newlines_nil : Newlines [] := List.forall_mem_nil _

inductive NamePart : Option String → List Token → Kind → Prop where
  | given {x : Token} {k : Kind} : x.kind = .identifier → NamePart (some x.text) [x] k
  | absent {k : Kind} : k ≠ .identifier → NamePart none [] k

inductive ItemsPart {s : Shape} (item : Phrase s) : List s.Carrier → List Token → Kind → Prop where
  | given {xs : List s.Carrier} {o : Token} {us : List Token} {k : Kind} :
      o.kind = .lparen → Spells (.items .rparen false item) xs us k → ItemsPart item xs (o :: us) k
  | absent {k : Kind} : k ≠ .lparen → ItemsPart item [] [] k

inductive Returns : Node → List Token → Kind → Prop where
  | nothing {r : Token} {k : Kind} :
      r.kind = .returnWord → k = .newline ∨ k = .semicolon ∨ k = .eof →
      Returns (.returning none) [r] k
  | value {r : Token} {e : Node} {us : List Token} {k : Kind} :
      r.kind = .returnWord → Spells .expression e us k → Returns (.returning (some e)) (r :: us) k

/-- What stands after the arrow of a branch. -/
inductive ArrowBranch : List Node → List Token → Kind → Prop where
  | returning {n : Node} {us : List Token} {k : Kind} : Returns n us k → ArrowBranch [n] us k
  | expression {e : Node} {us : List Token} {k : Kind} :
      Spells .expression e us k → ArrowBranch [e] us k

/-- The else part of a condition whose first branch has an arrow; an `else` without an arrow is
dropped. -/
inductive ArrowElse : Option (List Node) → List Token → Kind → Prop where
  | absent {ns : List Token} {k : Kind} :
      Newlines ns → k ≠ .newline → k ≠ .elseWord → ArrowElse none ns k
  | dropped {ns : List Token} {l : Token} {k : Kind} :
      Newlines ns → l.kind = .elseWord → k ≠ .arrow → ArrowElse none (ns ++ [l]) k
  | given {b : List Node} {ns us : List Token} {l o : Token} {k : Kind} :
      Newlines ns → l.kind = .elseWord → o.kind = .arrow → ArrowBranch b us k →
      ArrowElse (some b) (ns ++ l :: o :: us) k

/-- What ends an expression that is a statement. -/
inductive Terminator : List Token → Kind → Prop where
  | sign {c : Token} {k : Kind} : c.kind = .semicolon ∨ c.kind = .newline → Terminator [c] k
  | nothing {k : Kind} : k ≠ .semicolon → k ≠ .newline → Terminator [] k

inductive Decorators : List Node → List Token → Kind → Prop where
  | nil {k : Kind} : k ≠ .atSign → Decorators [] [] k
  | cons {xs ds : List Node} {a x : Token} {us ns vs : List Token} {k : Kind} :
      a.kind = .atSign → x.kind = .identifier → ItemsPart .expression xs us (ahead (ns ++ vs) k) →
      Newlines ns → ahead vs k ≠ .newline → Decorators ds vs k →
      Decorators (.decorator x.text xs :: ds) (a :: x :: (us ++ (ns ++ vs))) k

/-- The clauses of a program. A `form` is a statement with no newlines in front, `lines` are the
statements up to a closing token, `wordBlock` is an optional block after a word, and `catcher` is an
optional catch clause. -/
inductive Clause where
  | statement
  | form
  | function
  | block
  | lines (close : Kind)
  | wordBlock (word : Kind)
  | catcher

@[reducible] def Clause.Carrier : Clause → Type
  | statement | form | function => Node
  | block | lines _ => List Node
  | wordBlock _ => Option (List Node)
  | catcher => Option String × Option (List Node)

/-- The tokens compose the clause when a token of the given kind follows them. -/
inductive Composes : (c : Clause) → c.Carrier → List Token → Kind → Prop where
  | statement {s : Node} {ns us : List Token} {k : Kind} :
      Newlines ns → Composes .form s us k → Composes .statement s (ns ++ us) k
  | expression {e : Node} {us cs : List Token} {k : Kind} :
      Spells .expression e us (ahead cs k) → Terminator cs k → Composes .form e (us ++ cs) k
  | returning {n : Node} {us : List Token} {k : Kind} : Returns n us k → Composes .form n us k
  | arrowIf {c : Node} {b : List Node} {no : Option (List Node)}
      {i o : Token} {cs us ds : List Token} {k : Kind} :
      i.kind = .ifWord → Spells .expression c cs .arrow → o.kind = .arrow →
        ArrowBranch b us (ahead ds k) →
      ArrowElse no ds k → Composes .form (.conditional c b no) (i :: (cs ++ o :: (us ++ ds))) k
  | blockIf {c : Node} {b : List Node} {no : Option (List Node)} {i : Token} {cs us ds : List Token}
      {k : Kind} :
      i.kind = .ifWord → Spells .expression c cs (ahead (us ++ ds) k) →
        ahead (us ++ ds) k ≠ .arrow →
      Composes .block b us (ahead ds k) → Composes (.wordBlock .elseWord) no ds k →
      Composes .form (.conditional c b no) (i :: (cs ++ (us ++ ds))) k
  | whileLoop {c : Node} {b : List Node} {w : Token} {cs us : List Token} {k : Kind} :
      w.kind = .whileWord → Spells .expression c cs (ahead us k) → Composes .block b us k →
      Composes .form (.whileLoop c b) (w :: (cs ++ us)) k
  | forLoop {i : Node} {b : List Node} {f x : Token} {cs us : List Token} {k : Kind} :
      f.kind = .forWord → x.kind = .identifier → Spells .expression i cs (ahead us k) →
      Composes .block b us k → Composes .form (.forLoop x.text i b) (f :: x :: (cs ++ us)) k
  | trying {b : List Node} {x : Option String} {h f : Option (List Node)} {t : Token}
      {us hs fs : List Token} {k : Kind} :
      t.kind = .tryWord → Composes .block b us (ahead (hs ++ fs) k) →
      Composes .catcher (x, h) hs (ahead fs k) → Composes (.wordBlock .finallyWord) f fs k →
      Composes .form (.trying b x h f) (t :: (us ++ (hs ++ fs))) k
  | definition {f : Node} {us : List Token} {k : Kind} :
      Composes .function f us k → Composes .form f us k
  | decorated {d f : Node} {ds : List Node} {us vs : List Token} {k : Kind} :
      Decorators (d :: ds) us (ahead vs k) → Composes .function f vs k →
      Composes .form (.decorated (d :: ds) f) (us ++ vs) k
  | decorator {d : Node} {us : List Token} {k : Kind} :
      Decorators [d] us k → k ≠ .funcWord → Composes .form d us k
  | decorators {d e : Node} {ds : List Node} {us : List Token} {k : Kind} :
      Decorators (d :: e :: ds) us k → k ≠ .funcWord → Composes .form (.group (d :: e :: ds)) us k
  | arrowFunction {name : Option String} {ps : List String} {e : Node}
      {f a : Token} {xs us vs : List Token} {k : Kind} :
      f.kind = .funcWord → NamePart name xs (ahead us .arrow) → ItemsPart .name ps us .arrow →
      a.kind = .arrow → Spells .expression e vs k →
      Composes .function (.function name ps [.returning (some e)] false)
      (f :: (xs ++ (us ++ a :: vs))) k
  | blockFunction {name : Option String} {ps : List String} {b : List Node}
      {f : Token} {xs us vs : List Token} {k : Kind} :
      f.kind = .funcWord → NamePart name xs (ahead (us ++ vs) k) →
        ItemsPart .name ps us (ahead vs k) →
      ahead vs k ≠ .arrow → Composes .block b vs k →
      Composes .function (.function name ps b false) (f :: (xs ++ (us ++ vs))) k
  | braces {ss : List Node} {o q : Token} {ns us : List Token} {k : Kind} :
      o.kind = .lbrace → Newlines ns → ahead us .rbrace ≠ .newline →
        Composes (.lines .rbrace) ss us .rbrace →
      q.kind = .rbrace → Composes .block ss (o :: (ns ++ (us ++ [q]))) k
  | single {s : Node} {us : List Token} {k : Kind} :
      Composes .statement s us k → ahead us k ≠ .lbrace → Composes .block [s] us k
  | nil {close : Kind} : Composes (.lines close) [] [] close
  | cons {close : Kind} {s : Node} {ss : List Node} {us ns vs : List Token} :
      Composes .statement s us (ahead (ns ++ vs) close) → Newlines ns → ahead vs close ≠ .newline →
      Composes (.lines close) ss vs close →
      Composes (.lines close) (s :: ss) (us ++ (ns ++ vs)) close
  | without {word : Kind} {ns : List Token} {k : Kind} :
      Newlines ns → k ≠ .newline → k ≠ word → Composes (.wordBlock word) none ns k
  | after {word : Kind} {b : List Node} {l : Token} {ns us : List Token} {k : Kind} :
      Newlines ns → l.kind = word → Composes .block b us k →
      Composes (.wordBlock word) (some b) (ns ++ l :: us) k
  | uncaught {ns : List Token} {k : Kind} :
      Newlines ns → k ≠ .newline → k ≠ .catchWord → Composes .catcher (none, none) ns k
  | caught {x : Option String} {b : List Node} {l : Token} {ns xs us : List Token} {k : Kind} :
      Newlines ns → l.kind = .catchWord → NamePart x xs (ahead us k) → Composes .block b us k →
      Composes .catcher (x, some b) (ns ++ l :: (xs ++ us)) k

theorem Composes.ofForm {s : Node} {us : List Token} {k : Kind} (h : Composes .form s us k) :
    Composes .statement s us k :=
  .statement newlines_nil h

section Beginnings

variable {c : Clause} {a : c.Carrier} {us : List Token} {j k : Kind}

theorem ahead_ne_of_spells {e : Node} (h : Spells .expression e us k)
    (hj : j.opensExpression = false) :
    ahead us k ≠ j := by
  rintro rfl
  have ho : (ahead us k).opensExpression = true := h.opens
  rw [ho] at hj
  cases hj

/-- Kinds that begin a statement. -/
def opensForm (k : Kind) : Bool :=
  k.opensExpression ||
    [Kind.atSign, .ifWord, .whileWord, .forWord, .funcWord, .returnWord, .tryWord].contains k

/-- Clauses that cannot be left out. -/
def Clause.isFilled : Clause → Bool
  | statement | form | function | block => true
  | _ => false

/-- The kinds with which a clause that cannot be left out begins. -/
def Clause.Opens : Clause → Kind → Prop
  | function, k => k = .funcWord
  | form, k => opensForm k = true
  | statement, k | block, k => k = .newline ∨ opensForm k = true
  | _, _ => True

theorem Returns.opens {n : Node} (h : Returns n us k) (j : Kind) : ahead us j = .returnWord := by
  cases h <;> assumption

theorem Decorators.opens {d : Node} {ds : List Node} (h : Decorators (d :: ds) us k) (j : Kind) :
    ahead us j = .atSign := by
  cases h
  assumption

theorem Composes.ne_nil (h : Composes c a us k) (hc : c.isFilled = true) : us ≠ [] := by
  induction h with
  | expression h => simp [h.ne_nil]
  | returning h => cases h <;> simp
  | decorated h | decorator h | decorators h => cases h; simp
  | _ => simp_all [Clause.isFilled]

theorem Composes.opens (h : Composes c a us k) : c.Opens (ahead us k) := by
  induction h with
  | @statement s ns us k hn _ ih =>
    cases ns with
    | nil => exact .inr ih
    | cons n ns => exact .inl (hn n (by simp))
  | expression h =>
    have ho : (ahead _ _).opensExpression = true := h.opens
    simp [Clause.Opens, opensForm, ho]
  | returning h => simp [Clause.Opens, h.opens, opensForm]
  | decorated h => simp [Clause.Opens, h.opens, opensForm]
  | decorator h => simp [Clause.Opens, h.opens, opensForm]
  | decorators h => simp [Clause.Opens, h.opens, opensForm]
  | definition _ ih =>
    have hf : ahead _ _ = Kind.funcWord := ih
    simp [Clause.Opens, hf, opensForm]
  | braces ho =>
    right
    simp [ho, opensForm, Kind.opensExpression, Kind.opensPrimary]
  | single _ _ ih => exact ih
  | _ => simp_all [Clause.Opens, opensForm]

theorem Composes.opens_form {n : Node} (h : Composes .form n us k) :
    opensForm (ahead us k) = true := h.opens

theorem ne_of_opensForm (h : opensForm k = true) (hj : opensForm j = false) : k ≠ j := by
  rintro rfl
  rw [h] at hj
  cases hj

end Beginnings

end FloScript.Parser
