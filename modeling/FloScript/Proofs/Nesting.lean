import FloScript.Proofs.ClauseRecognition

/-! What a program keeps of its tokens. Brackets are matched by a stack of the kinds still to be
closed; what the tokens leave in the tree is compared with the tree read in order. Both go wrong in
one place only, where a list of parameters without an arrow is passed over, and there a closing
parenthesis is read that nothing opens. -/
namespace FloScript

namespace Kind

/-- The kind that closes what a kind opens. -/
def closer? : Kind → Option Kind
  | lparen => some rparen
  | lbracket => some rbracket
  | lbrace => some rbrace
  | _ => none

def isCloser (k : Kind) : Bool := [rparen, rbracket, rbrace].contains k

def isRound (k : Kind) : Bool := [lparen, rparen].contains k

/-- Names and the operators of arithmetic, comparison and logic. -/
def isWord (k : Kind) : Bool :=
  [identifier, not, plus, minus, multiply, divide, modulo, equal, notEqual, lessThan, greaterThan,
   lessEqual, greaterEqual, and, or].contains k

/-- Kinds whose tokens leave something in the tree. -/
def isMarked (k : Kind) : Bool :=
  k.isWord || [number, string, trueWord, falseWord, nullWord, awaitWord].contains k

/-- Kinds that neither leave anything in the tree nor open or close anything. -/
def isSilent (k : Kind) : Bool := !k.isMarked && k.closer? = none && !k.isCloser && k ≠ eof

end Kind

/-- What a token leaves in the tree, if anything. Names and operators leave their texts. -/
def Token.mark? (t : Token) : Option Literal :=
  match t.kind with
  | .number | .string => some t.value
  | .trueWord => some (.bool true)
  | .falseWord => some (.bool false)
  | .nullWord => some .null
  | .awaitWord => some (.text "await")
  | k => if k.isWord then some (.text t.text) else none

namespace Node

mutual

/-- The values, names and operators of a tree, each in its place among those of the parts. -/
@[simp] def marks : Node → List Literal
  | blank => []
  | number v | string v | boolean v | stray v => [v]
  | null => [.null]
  | identifier name => [.text name]
  | binary l op r => marks l ++ .text op :: marks r
  | unary op n => .text op :: marks n
  | assignment t v => .text t :: marks v
  | call f args => marks f ++ marksAll args
  | member o name => marks o ++ [.text name]
  | index o i => marks o ++ marks i
  | list es => marksAll es
  | dict ps => marksPairs ps
  | conditional c t e => marks c ++ (marksAll t ++ marksBlock e)
  | whileLoop c b => marks c ++ marksAll b
  | forLoop x i b => .text x :: (marks i ++ marksAll b)
  | function name ps b _ => name.toList.map .text ++ (ps.map .text ++ marksAll b)
  | returning none => []
  | returning (some v) => marks v
  | trying b x c f => marksAll b ++ (x.toList.map .text ++ (marksBlock c ++ marksBlock f))
  | await e => .text "await" :: marks e
  | decorator name args => .text name :: marksAll args
  | decorated ds f => marksAll ds ++ marks f
  | program ss => marksAll ss
  | group ns => marksAll ns

@[simp] def marksAll : List Node → List Literal
  | [] => []
  | n :: ns => marks n ++ marksAll ns

@[simp] def marksPairs : List (Node × Node) → List Literal
  | [] => []
  | (k, v) :: ps => marks k ++ marks v ++ marksPairs ps

@[simp] def marksBlock : Option (List Node) → List Literal
  | none => []
  | some ns => marksAll ns

end

end Node

namespace Parser

variable {k : Kind} {t : Token} {us vs ns : List Token} {st owed : List Kind} {ms ls : List Literal}

section Brackets

/-- The kinds still to be closed after a token, unless it closes what is not open. -/
def nest (st : List Kind) (t : Token) : Option (List Kind) :=
  match t.kind.closer? with
  | some q => some (q :: st)
  | none =>
    if t.kind.isCloser then (if st.head? = some t.kind then some st.tail else none) else some st

/-- Parentheses, brackets and braces are properly nested, and all of them are closed. -/
def Balanced (us : List Token) : Prop := us.foldlM nest [] = some []

instance : Decidable (Balanced us) := inferInstanceAs (Decidable (_ = _))

/-- The tokens close what is owed and all that they open. -/
def Nested (owed : List Kind) (us : List Token) : Prop :=
  ∀ st, us.foldlM nest (owed ++ st) = some st

theorem closer?_of_isCloser (h : k.isCloser = true) : k.closer? = none := by
  revert h
  cases k <;> decide

theorem Nested.nil : Nested [] [] := fun _ => rfl

theorem Nested.append (hu : Nested [] us) (hv : Nested owed vs) : Nested owed (us ++ vs) := by
  intro st
  rw [List.foldlM_append, show us.foldlM nest (owed ++ st) = some (owed ++ st) from hu _]
  exact hv st

theorem Nested.opened {q : Kind} (ht : t.kind.closer? = some q) (h : Nested (q :: owed) us) :
    Nested owed (t :: us) := by
  intro st
  rw [List.foldlM_cons, show nest (owed ++ st) t = some (q :: (owed ++ st)) by simp [nest, ht]]
  exact h st

theorem Nested.closed (ht : t.kind.isCloser = true) : Nested [t.kind] [t] := by
  intro st
  simp [nest, closer?_of_isCloser ht, ht]

theorem Nested.other (ht : t.kind.closer? = none)
    (hc : t.kind.isCloser = false) (h : Nested owed us) :
    Nested owed (t :: us) := by
  intro st
  rw [List.foldlM_cons, show nest (owed ++ st) t = some (owed ++ st) by simp [nest, ht, hc]]
  exact h st

theorem Nested.balanced (h : Nested [] us) : Balanced us := h []

/-- The number of tokens of a kind. -/
def tally (k : Kind) (us : List Token) : Nat := us.countP (·.kind = k)

@[simp] theorem tally_nil : tally k [] = 0 := rfl

@[simp] theorem tally_cons : tally k (t :: us) = tally k us + if t.kind = k then 1 else 0 := by
  simp [tally, List.countP_cons]

@[simp] theorem tally_append : tally k (us ++ vs) = tally k us + tally k vs := List.countP_append

/-- One token changes by one how many parentheses are owed and how many were read. -/
theorem count_nest {st' : List Kind} (h : nest st t = some st') :
    tally .lparen [t] + st.count .rparen = tally .rparen [t] + st'.count .rparen := by
  unfold nest at h
  split at h
  · next q hq =>
    cases h
    cases ht : t.kind <;> simp_all [Kind.closer?] <;> subst hq <;> simp [Nat.add_comm]
  · next hq =>
    split at h
    · split at h
      · next hh =>
        cases h
        obtain ⟨tl, rfl⟩ := List.head?_eq_some_iff.mp hh
        have hne : t.kind ≠ .lparen := by
          intro ht
          rw [ht] at hq
          cases hq
        simp [hne, List.count_cons, Nat.add_comm]
      · cases h
    · next hc =>
      cases h
      cases ht : t.kind <;> simp_all [Kind.closer?, Kind.isCloser]

theorem count_nesting {st' : List Kind} (h : us.foldlM nest st = some st') :
    tally .lparen us + st.count .rparen = tally .rparen us + st'.count .rparen := by
  induction us generalizing st with
  | nil =>
    cases h
    rfl
  | cons t us ih =>
    rw [List.foldlM_cons] at h
    obtain ⟨mid, hm, hu⟩ := Option.bind_eq_some_iff.mp h
    have ht := count_nest hm
    have hi := ih hu
    simp only [tally_cons, tally_nil, Nat.zero_add] at ht ⊢
    omega

theorem Balanced.tally_eq (h : Balanced us) : tally .lparen us = tally .rparen us := by
  simpa using count_nesting h

end Brackets

section Faithful

/-- Brackets and braces alone. -/
def square (us : List Token) : List Token := us.filter fun t => !t.kind.isRound

/-- As many parentheses are closed as are owed and opened. -/
def Even (owed : List Kind) (us : List Token) : Prop :=
  tally .lparen us + owed.count .rparen = tally .rparen us

/-- What the tokens of a phrase are to the marks it has. At least the parentheses that were opened
are closed; if no more are, then everything nests and nothing is lost. -/
structure Faithful (owed : List Kind) (ms : List Literal) (us : List Token) : Prop where
  inside : ∀ t ∈ us, t.kind ≠ .eof
  closed : tally .lparen us + owed.count .rparen ≤ tally .rparen us
  kept : Even owed us → us.filterMap Token.mark? = ms
  nested : Even owed us → Nested owed us
  square : Nested (owed.filter fun q => !q.isRound) (square us)

namespace Faithful

theorem nil : Faithful [] [] [] where
  inside := by simp
  closed := Nat.le_refl _
  kept _ := rfl
  nested _ := .nil
  square := .nil

theorem append (hu : Faithful [] ms us) (hv : Faithful owed ls vs) :
    Faithful owed (ms ++ ls) (us ++ vs) := by
  have h₁ := hu.closed
  have h₂ := hv.closed
  -- a surplus in one part cannot be made up in the other
  have hsplit (h : Even owed (us ++ vs)) : Even [] us ∧ Even owed vs := by
    simp only [Even, tally_append, List.count_nil] at h h₁ ⊢
    omega
  refine ⟨?_, ?_, ?_, ?_, ?_⟩
  · intro t ht
    exact (List.mem_append.mp ht).elim (hu.inside t) (hv.inside t)
  · simp only [tally_append, List.count_nil] at h₁ ⊢
    omega
  · intro h
    obtain ⟨hl, hr⟩ := hsplit h
    rw [List.filterMap_append, hu.kept hl, hv.kept hr]
  · intro h
    obtain ⟨hl, hr⟩ := hsplit h
    exact (hu.nested hl).append (hv.nested hr)
  · rw [Parser.square, List.filter_append]
    exact hu.square.append hv.square

theorem opened {q : Kind} (ht : t.kind = k) (hk : k.closer? = some q)
    (h : Faithful (q :: owed) ms us) :
    Faithful owed ms (t :: us) := by
  subst ht
  have hq : (t.kind = .lparen ↔ q = .rparen) ∧ t.kind ≠ .rparen ∧ t.kind ≠ .eof ∧ t.mark? = none ∧
      t.kind.isRound = q.isRound := by
    unfold Token.mark?
    cases hj : t.kind <;> simp_all [Kind.closer?] <;> subst hk <;> decide
  obtain ⟨hl, hr, he, hm, hround⟩ := hq
  have heven : Even owed (t :: us) ↔ Even (q :: owed) us := by
    simp only [Even, tally_cons, hr, hl, List.count_cons, beq_iff_eq, if_false]
    omega
  refine ⟨?_, ?_, ?_, ?_, ?_⟩
  · simpa [he] using h.inside
  · have hc := h.closed
    simp only [tally_cons, hr, hl, List.count_cons, beq_iff_eq, if_false] at hc ⊢
    omega
  · intro hs
    rw [List.filterMap_cons, hm]
    exact h.kept (heven.mp hs)
  · intro hs
    exact (h.nested (heven.mp hs)).opened hk
  · have hs := h.square
    cases hb : q.isRound with
    | true => simpa [Parser.square, hround, hb] using hs
    | false =>
      simp only [List.filter_cons, hb, Bool.not_false, if_true] at hs
      simpa [Parser.square, hround, hb] using hs.opened hk

theorem close (ht : t.kind = k) (hk : k.isCloser = true) : Faithful [k] [] [t] := by
  subst ht
  have hl : t.kind ≠ .lparen ∧ t.kind ≠ .eof ∧ t.mark? = none := by
    unfold Token.mark?
    cases hj : t.kind <;> simp_all [Kind.isCloser] <;> decide
  obtain ⟨hl, he, hm⟩ := hl
  refine ⟨by simpa using he, ?_, ?_, ?_, ?_⟩
  · simp [hl, List.count_cons]
  · intro _
    simp [hm]
  · intro _
    exact .closed hk
  · cases hb : t.kind.isRound with
    | true => simpa [Parser.square, hb] using Nested.nil
    | false => simpa [Parser.square, hb] using Nested.closed hk

theorem other (ht : t.kind.closer? = none) (hc : t.kind.isCloser = false) (he : t.kind ≠ .eof)
    (h : Faithful owed ms us) : Faithful owed (t.mark?.toList ++ ms) (t :: us) := by
  have hk : t.kind ≠ .lparen ∧ t.kind ≠ .rparen ∧ t.kind.isRound = false := by
    cases hk : t.kind <;> simp_all [Kind.closer?, Kind.isCloser] <;> decide
  obtain ⟨hl, hr, hround⟩ := hk
  have heven : Even owed (t :: us) ↔ Even owed us := by simp [Even, hl, hr]
  refine ⟨?_, ?_, ?_, ?_, ?_⟩
  · simpa [he] using h.inside
  · simpa [hl, hr] using h.closed
  · intro hs
    rw [← h.kept (heven.mp hs), List.filterMap_cons]
    cases t.mark? <;> rfl
  · intro hs
    exact (h.nested (heven.mp hs)).other ht hc
  · simpa [Parser.square, hround] using h.square.other ht hc

/-- A token that leaves something in the tree. -/
theorem marked (ht : t.kind = k) (hk : k.isMarked = true) (h : Faithful owed ms us) :
    Faithful owed (t.mark?.toList ++ ms) (t :: us) := by
  have ho : k.closer? = none ∧ k.isCloser = false ∧ k ≠ .eof := by
    revert hk
    cases k <;> decide
  subst ht
  exact h.other ho.1 ho.2.1 ho.2.2

theorem word (ht : t.kind = k) (hk : k.isWord = true) (h : Faithful owed ms us) :
    Faithful owed (.text t.text :: ms) (t :: us) := by
  subst ht
  have hmark : t.mark? = some (.text t.text) := by
    unfold Token.mark?
    split <;> simp_all [Kind.isWord]
  have hw := h.marked (t := t) rfl (by simp [Kind.isMarked, hk])
  rwa [hmark] at hw

theorem silent (ht : t.kind = k) (hk : k.isSilent = true) (h : Faithful owed ms us) :
    Faithful owed ms (t :: us) := by
  subst ht
  simp only [Kind.isSilent, Bool.and_eq_true, Bool.not_eq_true', decide_eq_true_eq] at hk
  obtain ⟨⟨⟨hm, hn⟩, hc⟩, he⟩ := hk
  have hmark : t.mark? = none := by
    unfold Token.mark?
    split <;> simp_all [Kind.isMarked, Kind.isWord]
  have ho := h.other hn hc he
  rwa [hmark] at ho

theorem silents (hn : ∀ n ∈ ns, n.kind.isSilent = true) (h : Faithful owed ms us) :
    Faithful owed ms (ns ++ us) := by
  induction ns with
  | nil => exact h
  | cons n ns ih =>
    obtain ⟨hn, hs⟩ := List.forall_mem_cons.mp hn
    exact (ih hs).silent rfl hn

end Faithful

end Faithful

section Phrases

variable {s : Shape} {c : Phrase s} {a : s.Carrier}

@[simp] def Shape.marks : (s : Shape) → s.Carrier → List Literal
  | node, n => n.marks
  | text, x => [.text x]
  | pair, (k, v) => k.marks ++ v.marks
  | list s, xs => xs.flatMap s.marks

/-- What a phrase closes that was opened in front of it. -/
@[simp] def Phrase.due : {s : Shape} → Phrase s → List Kind
  | _, .items close _ _ => [close]
  | _, _ => []

/-- Items end with a closing bracket. -/
def Phrase.Closes : {s : Shape} → Phrase s → Prop
  | _, .items close _ _ => close.isCloser = true
  | _, _ => True

theorem marksAll_eq_flatMap (ns : List Node) : Node.marksAll ns = ns.flatMap Node.marks := by
  induction ns with
  | nil => rfl
  | cons n ns ih => simp [ih]

theorem marksPairs_eq_flatMap (ps : List (Node × Node)) :
    Node.marksPairs ps = ps.flatMap Shape.pair.marks := by
  induction ps with
  | nil => rfl
  | cons p ps ih => simp [ih]

theorem isWord_of_mem_operatorsAt {n : Nat} (h : k ∈ operatorsAt n) : k.isWord = true := by
  match n with
  | 0 | 1 | 2 | 3 | 4 | 5 => revert h; cases k <;> decide
  | n + 6 => simp [operatorsAt] at h

theorem faithful_leaf {n : Node} (h : leaf? t = some n) : Faithful [] n.marks [t] := by
  have hm : t.mark?.toList = n.marks ∧ t.kind.isMarked = true := by
    unfold leaf? at h
    unfold Token.mark?
    split at h <;> simp_all <;> subst h <;> simp [Kind.isWord, Kind.isMarked]
  have hl := Faithful.nil.marked rfl hm.2
  rwa [hm.1, List.append_nil] at hl

/-- An expression between an opening token and the one that closes it. -/
theorem Faithful.enclosed {o q : Token} {j : Kind} (ho : o.kind = k) (hq : q.kind = j)
    (hk : k.closer? = some j) (hj : j.isCloser = true) (h : Faithful [] ms us) :
    Faithful [] ms (o :: (us ++ [q])) := by
  have hc := h.append (Faithful.close hq hj)
  rw [List.append_nil] at hc
  exact hc.opened ho hk

theorem Separator.isSilent {cs : List Token} (h : Separator cs k) :
    ∀ t ∈ cs, t.kind.isSilent = true := by
  cases h with
  | comma hc => simp [hc]; decide
  | nothing => simp

theorem isSilent_of_newlines (h : Newlines ns) : ∀ t ∈ ns, t.kind.isSilent = true := by
  intro t ht
  rw [h t ht]
  decide

/-- A list of parameters that no arrow follows is read up to its closing parenthesis, and then one
more is read. -/
theorem faithful_skipped {o q : Token} (ho : o.kind = .lparen) (hq : q.kind = .rparen)
    (hp : Faithful [.rparen] ms us) (he : Faithful [] ls vs) :
    Faithful [] ls (o :: (us ++ (vs ++ [q]))) := by
  have hsurplus :
      tally .lparen (o :: (us ++ (vs ++ [q]))) < tally .rparen (o :: (us ++ (vs ++ [q]))) := by
    have h₁ := hp.closed
    have h₂ := he.closed
    simp [ho, hq] at h₁ h₂ ⊢
    omega
  have hodd : ¬ Even [] (o :: (us ++ (vs ++ [q]))) := fun h => absurd h (Nat.ne_of_lt hsurplus)
  refine ⟨?_, Nat.le_of_lt hsurplus, fun h => absurd h hodd, fun h => absurd h hodd, ?_⟩
  · have h₁ := hp.inside
    have h₂ := he.inside
    simp only [List.mem_cons, List.mem_append, List.not_mem_nil, or_false]
    rintro t (rfl | ht | ht | rfl)
    · simp [ho]
    · exact h₁ t ht
    · exact h₂ t ht
    · simp [hq]
  · have hs := hp.square.append he.square
    simpa [square, ho, hq, Kind.isRound] using hs

theorem Spells.faithful (h : Spells c a us k) (hc : c.Closes) : Faithful c.due (s.marks a) us := by
  induction h with
  | assignment _ he _ ihu ihv =>
    have hv := (ihv trivial).silent he rfl
    simpa using (ihu trivial).append hv
  | value _ _ ih => exact ih trivial
  | choice _ hq _ hs _ ihc iha ihb =>
    have hb := (ihb trivial).silent hs rfl
    have ha := ((iha trivial).append hb).silent hq rfl
    simpa using (ihc trivial).append ha
  | operation _ _ ih => exact ih trivial
  | operand _ ih => exact ih trivial
  | binary _ ho _ ihl ihr =>
    have hr := (ihr trivial).word rfl (isWord_of_mem_operatorsAt ho)
    simpa using (ihl trivial).append hr
  | level _ _ ih => exact ih trivial
  | @unary o _ _ _ ho _ ih =>
    have hw : o.kind.isWord = true := by rcases ho with ho | ho <;> rw [ho] <;> decide
    simpa using (ih trivial).word rfl hw
  | @await o _ _ _ ho _ ih =>
    have hw := (ih trivial).marked ho rfl
    simpa [Token.mark?, ho] using hw
  | accessed _ _ ih => exact ih trivial
  | base _ ih => exact ih trivial
  | @member _ _ d x _ _ hd hx ih =>
    have hn := (Faithful.nil.word hx rfl).silent hd rfl
    simpa using (ih trivial).append hn
  | @call _ _ _ _ o _ _ ho _ ihe ihx =>
    have hx := (ihx rfl).opened ho rfl
    simpa [marksAll_eq_flatMap] using (ihe trivial).append hx
  | index _ ho _ hq ihe ihi =>
    have hi := (ihi trivial).enclosed ho hq rfl rfl
    simpa using (ihe trivial).append hi
  | leaf h => exact faithful_leaf h
  | parenthesized ho _ _ hq ih => exact (ih trivial).enclosed ho hq rfl rfl
  | skipped ho _ _ _ hq ihp ih => exact faithful_skipped ho hq (ihp rfl) (ih trivial)
  | @lambda ps _ _ _ o a _ ho _ ha _ ihp ih =>
    have he := (ih trivial).silent ha rfl
    have hp := (ihp rfl).opened ho rfl
    simpa [Parser.lambda, ← List.map_eq_flatMap] using hp.append he
  | @thunk _ _ a _ ha _ ih =>
    have he := (ih trivial).silent ha rfl
    simpa [Parser.lambda] using he
  | @list _ _ _ o _ ho hn _ _ ih =>
    have hs := (ih rfl).silents (isSilent_of_newlines hn)
    simpa [marksAll_eq_flatMap] using hs.opened ho rfl
  | @dict _ _ _ o _ ho hn _ _ ih =>
    have hs := (ih rfl).silents (isSilent_of_newlines hn)
    simpa [marksPairs_eq_flatMap] using hs.opened ho rfl
  | name hx => exact Faithful.nil.word hx rfl
  | @named x q _ _ _ hx hq _ ih =>
    have hv := (ih trivial).silent hq rfl
    simpa using hv.word hx rfl
  | @keyed _ _ _ _ q _ _ _ hq _ ihk ihv =>
    have hv := (ihv trivial).silent hq rfl
    exact (ihk trivial).append hv
  | nil hq => exact .close hq hc
  | cons hi _ _ _ hs hn _ _ _ ihx ihs =>
    have hrest := ((ihs hc).silents (isSilent_of_newlines hn)).silents hs.isSilent
    cases hi <;> exact (ihx trivial).append hrest

end Phrases

section Clauses

variable {c : Clause} {a : c.Carrier}

@[simp] def Clause.marks : (c : Clause) → c.Carrier → List Literal
  | statement, n | form, n | function, n => n.marks
  | block, ns | lines _, ns => Node.marksAll ns
  | wordBlock _, b => Node.marksBlock b
  | catcher, (x, b) => x.toList.map .text ++ Node.marksBlock b

/-- The word in front of an optional block leaves nothing in the tree. -/
def Clause.Silent : Clause → Prop
  | wordBlock word => word.isSilent = true
  | _ => True

theorem NamePart.faithful {x : Option String} (h : NamePart x us k) :
    Faithful [] (x.toList.map .text) us := by
  cases h with
  | given hx => exact Faithful.nil.word hx rfl
  | absent => exact .nil

theorem ItemsPart.faithful {s : Shape} {item : Phrase s} {xs : List s.Carrier}
    (h : ItemsPart item xs us k) :
    Faithful [] (xs.flatMap s.marks) us := by
  cases h with
  | given ho h => exact (h.faithful rfl).opened ho rfl
  | absent => exact .nil

theorem Returns.faithful {n : Node} (h : Returns n us k) : Faithful [] n.marks us := by
  cases h with
  | nothing hr => simpa using Faithful.nil.silent hr rfl
  | value hr h => simpa using (h.faithful trivial).silent hr rfl

theorem ArrowBranch.faithful {b : List Node} (h : ArrowBranch b us k) :
    Faithful [] (Node.marksAll b) us := by
  cases h with
  | returning h => simpa using h.faithful
  | expression h => simpa using h.faithful trivial

theorem ArrowElse.faithful {no : Option (List Node)} (h : ArrowElse no us k) :
    Faithful [] (Node.marksBlock no) us := by
  cases h with
  | absent hn => simpa using Faithful.nil.silents (isSilent_of_newlines hn)
  | dropped hn hl => simpa using (Faithful.nil.silent hl rfl).silents (isSilent_of_newlines hn)
  | given hn hl ho h =>
    simpa using ((h.faithful.silent ho rfl).silent hl rfl).silents (isSilent_of_newlines hn)

theorem Terminator.isSilent (h : Terminator us k) : ∀ t ∈ us, t.kind.isSilent = true := by
  cases h with
  | sign hc => rcases hc with hc | hc <;> simp [hc] <;> decide
  | nothing => simp

theorem Decorators.faithful {ds : List Node} (h : Decorators ds us k) :
    Faithful [] (Node.marksAll ds) us := by
  induction h with
  | nil => exact .nil
  | cons ha hx hi hn _ _ ih =>
    have hrest := hi.faithful.append (ih.silents (isSilent_of_newlines hn))
    simpa [marksAll_eq_flatMap] using (hrest.word hx rfl).silent ha rfl

theorem Composes.faithful (h : Composes c a us k) (hc : c.Silent) : Faithful [] (c.marks a) us := by
  induction h with
  | statement hn _ ih => exact (ih trivial).silents (isSilent_of_newlines hn)
  | expression h ht => simpa using (h.faithful trivial).append (Faithful.nil.silents ht.isSilent)
  | returning h => exact h.faithful
  | arrowIf hi h ho hb hno =>
    have hrest := (hb.faithful.append hno.faithful).silent ho rfl
    simpa using ((h.faithful trivial).append hrest).silent hi rfl
  | blockIf hi h _ _ _ ihb ihno =>
    have hrest := (ihb trivial).append (ihno rfl)
    simpa using ((h.faithful trivial).append hrest).silent hi rfl
  | whileLoop hw h _ ih => simpa using ((h.faithful trivial).append (ih trivial)).silent hw rfl
  | forLoop hf hx h _ ih =>
    simpa using (((h.faithful trivial).append (ih trivial)).word hx rfl).silent hf rfl
  | trying ht _ _ _ ihb ihh ihf =>
    have hrest := (ihb trivial).append ((ihh trivial).append (ihf rfl))
    simpa using hrest.silent ht rfl
  | definition _ ih => exact ih trivial
  | decorated hd _ ih => simpa using hd.faithful.append (ih trivial)
  | decorator hd => simpa using hd.faithful
  | decorators hd => simpa using hd.faithful
  | arrowFunction hf hx hp ha h =>
    have hrest := hx.faithful.append (hp.faithful.append ((h.faithful trivial).silent ha rfl))
    simpa [← List.map_eq_flatMap] using hrest.silent hf rfl
  | blockFunction hf hx hp _ _ ih =>
    have hrest := hx.faithful.append (hp.faithful.append (ih trivial))
    simpa [← List.map_eq_flatMap] using hrest.silent hf rfl
  | braces ho hn _ _ hq ih =>
    have hrest := ((ih trivial).append (Faithful.close hq rfl)).silents (isSilent_of_newlines hn)
    simpa using hrest.opened ho rfl
  | single _ _ ih => simpa using ih trivial
  | nil => exact .nil
  | cons _ hn _ _ ihs ihss =>
    exact (ihs trivial).append ((ihss trivial).silents (isSilent_of_newlines hn))
  | without hn => simpa using Faithful.nil.silents (isSilent_of_newlines hn)
  | after hn hl _ ih => exact ((ih trivial).silent hl hc).silents (isSilent_of_newlines hn)
  | uncaught hn => simpa using Faithful.nil.silents (isSilent_of_newlines hn)
  | caught hn hl hx _ ih =>
    exact ((hx.faithful.append (ih trivial)).silent hl rfl).silents (isSilent_of_newlines hn)

theorem Program.faithful {ss : List Node} (h : Program ss us) :
    Faithful [] (Node.marksAll ss) us := by
  cases h with
  | intro hn _ h => exact (h.faithful trivial).silents (isSilent_of_newlines hn)

end Clauses

/-- The tokens in front of the first end mark. -/
def content (ts : List Token) : List Token := ts.takeWhile fun t => t.kind ≠ .eof

theorem content_append {e : Token} {tl : List Token}
    (hu : ∀ u ∈ us, u.kind ≠ .eof) (he : e.kind = .eof) :
    content (us ++ e :: tl) = us := by
  unfold content
  rw [List.takeWhile_append_of_pos (by simpa using hu),
    List.takeWhile_cons_of_neg (by simp [he]), List.append_nil]

/-- An accepted program is made of the tokens in front of the end mark. -/
theorem program_content {ts : List Token} {n : Node} (he : Ended ts) (h : programOf ts = .ok n) :
    Faithful [] n.marks (content ts) := by
  obtain ⟨ss, us, e, tl, rfl, hk, hp, rfl⟩ := program_of_programOf he h
  rw [content_append hp.faithful.inside hk]
  simpa using hp.faithful

/-- If a program has as many opening as closing parentheses, then nothing of it is lost, doubled or
moved. -/
theorem marks_program {ts : List Token} {n : Node} (he : Ended ts) (h : programOf ts = .ok n)
    (hp : tally .lparen (content ts) = tally .rparen (content ts)) :
    n.marks = (content ts).filterMap Token.mark? := by
  symm
  exact (program_content he h).kept hp

/-- The call `f((x) => -x)`. -/
def negatingCall : List Token :=
  [⟨.identifier, .text "f", ⟨1, 1⟩⟩, ⟨.lparen, .text "(", ⟨1, 2⟩⟩, ⟨.lparen, .text "(", ⟨1, 3⟩⟩,
   ⟨.identifier, .text "x", ⟨1, 4⟩⟩, ⟨.rparen, .text ")", ⟨1, 5⟩⟩, ⟨.arrow, .text "=>", ⟨1, 7⟩⟩,
   ⟨.minus, .text "-", ⟨1, 10⟩⟩, ⟨.identifier, .text "x", ⟨1, 11⟩⟩, ⟨.rparen, .text ")", ⟨1, 12⟩⟩,
   ⟨.eof, .null, ⟨1, 13⟩⟩]

theorem marks_negatingCall : ∃ n, programOf negatingCall = .ok n ∧
    n.marks = [.text "f", .text "x", .text "-", .text "x"] := by
  have hends : Ended negatingCall := ⟨negatingCall.dropLast, ⟨.eof, .null, ⟨1, 13⟩⟩, rfl, rfl⟩
  have hread : programOf negatingCall =
      .ok (.program [.call (.identifier "f") [lambda ["x"] (.unary "-" (.identifier "x"))]]) := rfl
  exact ⟨_, hread, marks_program hends hread (by decide)⟩

/-- Brackets and braces of an accepted program are always nested. Parentheses are nested with them
if and only if there are as many closing ones as opening ones; there are never fewer. -/
theorem balanced_program_iff {ts : List Token} {n : Node} (he : Ended ts)
    (h : programOf ts = .ok n) :
    Balanced (square (content ts)) ∧ tally .lparen (content ts) ≤ tally .rparen (content ts) ∧
      (Balanced (content ts) ↔ tally .lparen (content ts) = tally .rparen (content ts)) := by
  have hf := program_content he h
  refine ⟨hf.square.balanced, hf.closed, Balanced.tally_eq, ?_⟩
  intro hp
  exact (hf.nested hp).balanced

/-- The program `() 1)`. -/
def strayParenthesis : List Token :=
  [⟨.lparen, .text "(", ⟨1, 1⟩⟩, ⟨.rparen, .text ")", ⟨1, 2⟩⟩, ⟨.number, .int 1, ⟨1, 4⟩⟩,
   ⟨.rparen, .text ")", ⟨1, 5⟩⟩, ⟨.eof, .null, ⟨1, 6⟩⟩]

theorem strayParenthesis_accepted :
    programOf strayParenthesis = .ok (.program [.number (.int 1)]) ∧
      ¬ Balanced (content strayParenthesis) := by
  have hends : Ended strayParenthesis :=
    ⟨strayParenthesis.dropLast, ⟨.eof, .null, ⟨1, 6⟩⟩, rfl, rfl⟩
  have hread : programOf strayParenthesis = .ok (.program [.number (.int 1)]) := rfl
  refine ⟨hread, ?_⟩
  rw [(balanced_program_iff hends hread).2.2]
  decide

end Parser
end FloScript
