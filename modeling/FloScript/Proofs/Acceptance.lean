import FloScript.Proofs.Phrase

/-! Every spelled phrase is read: the parser of a phrase reads its tokens when a token of the right
kind follows them, at every depth that the number of the tokens allows. -/
namespace FloScript.Parser

variable {α : Type} {p : Parser α} {a : α} {xs : List α} {k close : Kind} {us vs cs ns : List Token}

theorem reads_commaAfter (hp : Reads p us (ahead cs k) a) (hs : Separator cs k) :
    Reads (commaAfter p) (us ++ cs) k a := by
  unfold commaAfter
  apply reads_bind hp
  rw [discard_bind]
  cases hs with
  | comma hc => exact reads_step (reads_accept hc) reads_pure
  | nothing hk => exact reads_peek (reads_accept_other hk) reads_pure

/-- Items up to a closing token, and that token, with a bound on their number. -/
def closedWithin (close : Kind) (item : Parser α) (n : Nat) : Parser (List α) := do
  let xs ← itemsUntil close item n
  discard (expect close)
  return xs

theorem reads_closedBy (h : ∀ n, us.length ≤ n → Reads (closedWithin close p n) us k xs) :
    Reads (closedBy close p) us k xs := by
  intro r tl hr
  exact h (us ++ r :: tl).length (by simp) r tl hr

theorem reads_itemsUntil_nil (n : Nat) : Reads (itemsUntil close p n) [] close [] := by
  cases n <;> unfold itemsUntil <;> apply reads_currentKind <;> simpa using reads_pure

theorem reads_closedWithin_nil {c : Token} (hc : c.kind = close) (n : Nat) :
    Reads (closedWithin close p n) [c] k [] := by
  unfold closedWithin
  apply reads_peek
  · simpa [hc] using reads_itemsUntil_nil n
  · rw [discard_bind]
    exact reads_step (reads_expect hc) reads_pure

theorem reads_closedWithin_cons {n : Nat} (hne : ahead (us ++ vs) k ≠ close)
    (hp : Reads p us (ahead vs k) a) (h : Reads (closedWithin close p n) vs k xs) :
    Reads (closedWithin close p (n + 1)) (us ++ vs) k (a :: xs) := by
  unfold closedWithin itemsUntil
  rw [bind_assoc]
  apply reads_currentKind
  rw [if_neg hne]
  simp only [bind_assoc, pure_bind]
  apply reads_bind hp
  have hm : Reads (do return a :: (← closedWithin close p n)) vs k (a :: xs) := reads_map h
  simpa [closedWithin, bind_assoc] using hm

theorem reads_spaced {lines : Bool} (hl : lines = true → ahead (us ++ (cs ++ ns)) k ≠ .newline)
    (hp : Reads p us (ahead (cs ++ ns) k) a) (hs : Separator cs (ahead ns k))
    (hn : ∀ n ∈ ns, n.kind = .newline) (hf : lines = false → ns = [])
    (hk : lines = true → k ≠ .newline) : Reads (spaced lines p) (us ++ (cs ++ ns)) k a := by
  rw [← List.append_assoc]
  unfold spaced
  cases lines with
  | false =>
    obtain rfl := hf rfl
    rw [List.append_nil] at hp ⊢
    exact reads_commaAfter hp hs
  | true =>
    have hno : ∀ n ∈ ([] : List Token), n.kind = .newline := by simp
    apply reads_peek (reads_skipNewlines hno (by simpa using hl rfl))
    rw [ahead_append] at hp
    apply reads_bind (reads_commaAfter hp hs)
    exact reads_finish (reads_skipNewlines hn (hk rfl)) reads_pure

section Levels

variable {E U : Parser Node} {t l r v c d : Node} {o q s : Token} {ws : List Token}

theorem reads_assignmentOf {name : String} (h : Reads (ternaryOf E U) us .assign (.identifier name))
    (ho : o.kind = .assign) (hv : Reads E vs k v) :
    Reads (assignmentOf E U) (us ++ o :: vs) k (.assignment name v) := by
  unfold assignmentOf
  apply reads_bind (by rwa [ahead_cons, ho])
  apply reads_currentKind
  rw [ahead_cons, if_neg (by simp [ho])]
  simp only [discard_bind]
  exact reads_step reads_advance (reads_map hv)

theorem reads_assignmentOf_value (h : Reads (ternaryOf E U) us k t) (hk : k ≠ .assign) :
    Reads (assignmentOf E U) us k t := by
  unfold assignmentOf
  apply reads_finish h
  apply reads_currentKind
  rw [ahead_nil, if_pos hk]
  exact reads_pure

theorem reads_ternaryOf (h : Reads (tierOf U topTier) us .question c) (hq : q.kind = .question)
    (hv : Reads E vs .colon v) (hs : s.kind = .colon) (hw : Reads E ws k d) :
    Reads (ternaryOf E U) (us ++ q :: (vs ++ s :: ws)) k (.conditional c [v] (some [d])) := by
  unfold ternaryOf
  rw [disjunctionOf_eq_tierOf]
  apply reads_bind (by rwa [ahead_cons, hq])
  apply reads_step (reads_accept hq)
  simp only [if_true, discard_bind]
  apply reads_bind (by rwa [ahead_cons, hs])
  exact reads_step (reads_expect hs) (reads_map hw)

theorem reads_ternaryOf_value (h : Reads (tierOf U topTier) us k t) (hk : k ≠ .question) :
    Reads (ternaryOf E U) us k t := by
  unfold ternaryOf
  rw [disjunctionOf_eq_tierOf]
  exact reads_finish h (reads_finish (reads_accept_other hk) reads_pure)

theorem level_start {kinds : List Kind} (h : Reads U us k t) {x : Token} (hx : x.kind = k)
    (tl : List Token) :
    level kinds U (us ++ x :: tl) = operators kinds U (x :: tl).length t (x :: tl) := by
  unfold level
  rw [bind_of_ok (h x tl hx)]
  rfl

theorem operators_more {kinds : List Kind} (ho : o.kind ∈ kinds) (h : Reads U vs k r) {x : Token}
    (hx : x.kind = k) (tl : List Token) (f : Nat) :
    operators kinds U (f + 1) l (o :: (vs ++ x :: tl)) =
      operators kinds U f (.binary l o.text r) (x :: tl) := by
  obtain ⟨y, yl, hy, -⟩ := exists_head vs tl hx
  have hc : current (o :: y :: yl) = .ok o (o :: y :: yl) := rfl
  have ha : advance (o :: y :: yl) = .ok o (y :: yl) := rfl
  rw [hy, operators, bind_of_ok hc, if_neg (by simpa using ho), discard_bind, bind_of_ok ha, ← hy,
    bind_of_ok (h x tl hx)]

theorem operators_stop {kinds : List Kind} {x : Token} (hx : x.kind ∉ kinds)
    (tl : List Token) (f : Nat) :
    operators kinds U (f + 1) t (x :: tl) = .ok t (x :: tl) := by
  have hc : current (x :: tl) = .ok x (x :: tl) := rfl
  rw [operators, bind_of_ok hc, if_pos (by simpa using hx)]
  rfl

end Levels

section Operands

variable {E U : Parser Node} {t e : Node} {o x y : Token} {ws : List Token}

theorem access?_member (ho : o.kind = .dot) (hx : x.kind = .identifier) :
    Reads (access? E e) [o, x] k (some (.member e x.text)) := by
  unfold access?
  apply reads_step (reads_accept ho)
  exact reads_map (reads_expect hx)

theorem access?_call {xs : List Node} (ho : o.kind = .lparen)
    (h : Reads (closedBy .rparen (commaAfter E)) us k xs) :
    Reads (access? E e) (o :: us) k (some (.call e xs)) := by
  unfold access?
  apply reads_peek (reads_accept_other (by simp [ho]))
  apply reads_step (reads_accept ho)
  exact reads_map h

theorem access?_index {i : Node} (ho : o.kind = .lbracket) (h : Reads E us .rbracket i)
    (hx : x.kind = .rbracket) : Reads (access? E e) (o :: (us ++ [x])) k (some (.index e i)) := by
  unfold access?
  apply reads_peek (reads_accept_other (by simp [ho]))
  apply reads_peek (reads_accept_other (by simp [ho]))
  apply reads_step (reads_accept ho)
  simp only [if_true, discard_bind]
  apply reads_bind (by rwa [ahead_cons, hx])
  exact reads_step (reads_expect hx) reads_pure

theorem access?_none (hk : k.opensAccess = false) : Reads (access? E e) [] k none := by
  simp only [Kind.opensAccess, List.contains_eq_mem, List.mem_cons, List.not_mem_nil, or_false,
    decide_eq_false_iff_not, not_or] at hk
  obtain ⟨hd, hp, hb⟩ := hk
  unfold access?
  apply reads_finish (reads_accept_other hd)
  apply reads_finish (reads_accept_other hp)
  exact reads_finish (reads_accept_other hb) reads_pure

theorem accesses_more {e' : Node} (h : Reads (access? E e) us k (some e')) (hx : x.kind = k)
    (tl : List Token) (f : Nat) :
    accesses E (f + 1) e (us ++ x :: tl) = accesses E f e' (x :: tl) := by
  rw [accesses, bind_of_ok (h x tl hx)]

theorem accesses_stop (h : x.kind.opensAccess = false) (tl : List Token) (f : Nat) :
    accesses E (f + 1) e (x :: tl) = .ok e (x :: tl) := by
  have hn : access? E e (x :: tl) = .ok none (x :: tl) := access?_none h x tl rfl
  rw [accesses, bind_of_ok hn]
  rfl

theorem postfixOf_start (h : Reads (primaryOf E) us k t) (hx : x.kind = k) (tl : List Token) :
    postfixOf E (us ++ x :: tl) = accesses E (x :: tl).length t (x :: tl) := by
  unfold postfixOf
  rw [bind_of_ok (h x tl hx)]
  rfl

theorem reads_primaryOf_leaf {n : Node} (h : leaf? o = some n) : Reads (primaryOf E) [o] k n := by
  unfold primaryOf
  apply reads_current
  unfold leaf? at h
  split at h <;> simp_all only [reduceCtorEq, Option.some.injEq, discard_bind]
  all_goals
    subst h
    exact reads_step reads_advance reads_pure

theorem reads_primaryOf_parenthesis (ho : o.kind = .lparen) (h : Reads (parenthesized E) us k t) :
    Reads (primaryOf E) (o :: us) k t := by
  unfold primaryOf
  apply reads_current
  simp only [ho, discard_bind]
  exact reads_step reads_advance h

theorem reads_parenthesized (hi : ahead us .rparen ≠ .identifier) (hr : ahead us .rparen ≠ .rparen)
    (h : Reads E us .rparen t) (hx : x.kind = .rparen) :
    Reads (parenthesized E) (us ++ [x]) k t := by
  unfold parenthesized
  apply reads_currentKind
  rw [ahead_append, ahead_cons, hx]
  simp only [hi, hr, decide_false, Bool.or_self, Bool.false_eq_true, if_false, discard_bind]
  apply reads_bind (by rwa [ahead_cons, hx])
  exact reads_step (reads_expect hx) reads_pure

theorem reads_parenthesized_skipped {ps : List String}
    (hk : ahead us (ahead ws .rparen) = .identifier ∨ ahead us (ahead ws .rparen) = .rparen)
    (hp : Reads parameters us (ahead ws .rparen) ps) (ha : ahead ws .rparen ≠ .arrow)
    (h : Reads E ws .rparen t) (hx : x.kind = .rparen) :
    Reads (parenthesized E) (us ++ (ws ++ [x])) k t := by
  unfold parenthesized
  apply reads_currentKind
  simp only [ahead_append, ahead_cons, hx]
  rw [if_pos (by simpa using hk)]
  apply reads_bind (by simpa [hx] using hp)
  apply reads_peek (reads_accept_other (by simpa [hx] using ha))
  simp only [Bool.false_eq_true, if_false, discard_bind]
  apply reads_bind (by rwa [ahead_cons, hx])
  exact reads_step (reads_expect hx) reads_pure

theorem reads_parenthesized_lambda {ps : List String}
    (hk : ahead us .arrow = .identifier ∨ ahead us .arrow = .rparen)
    (hp : Reads parameters us .arrow ps) (hx : x.kind = .arrow) (h : Reads E ws k t) :
    Reads (parenthesized E) (us ++ x :: ws) k (lambda ps t) := by
  unfold parenthesized
  apply reads_currentKind
  simp only [ahead_append, ahead_cons, hx]
  rw [if_pos (by simpa using hk)]
  apply reads_bind (by rwa [ahead_cons, hx])
  apply reads_step (reads_accept hx)
  exact reads_map h

theorem reads_primaryOf_thunk (ho : o.kind = .arrow) (h : Reads E us k t) :
    Reads (primaryOf E) (o :: us) k (lambda [] t) := by
  unfold primaryOf
  apply reads_current
  simp only [ho, discard_bind]
  exact reads_step reads_advance (reads_map h)

theorem reads_bracketItems (hn : ∀ n ∈ ns, n.kind = .newline) (hu : ahead us k ≠ .newline)
    (h : Reads (closedBy close (spaced true p)) us k xs) :
    Reads (bracketItems close p) (ns ++ us) k xs := by
  rw [bracketItems_eq]
  exact reads_bind (reads_skipNewlines hn hu) h

theorem reads_primaryOf_list {es : List Node} (ho : o.kind = .lbracket)
    (h : Reads (bracketItems .rbracket E) us k es) :
    Reads (primaryOf E) (o :: us) k (.list es) := by
  unfold primaryOf
  apply reads_current
  simp only [ho, discard_bind]
  exact reads_step reads_advance (reads_map h)

theorem reads_primaryOf_dict {es : List (Node × Node)} (ho : o.kind = .lbrace)
    (h : Reads (bracketItems .rbrace (dictPair E)) us k es) :
    Reads (primaryOf E) (o :: us) k (.dict es) := by
  unfold primaryOf
  apply reads_current
  simp only [ho, discard_bind]
  exact reads_step reads_advance (reads_map h)

theorem reads_dictKey_name (ho : o.kind = .identifier) :
    Reads (dictKey E) [o] k (.string (.text o.text)) := by
  unfold dictKey
  apply reads_current
  rw [if_pos ho, discard_bind]
  exact reads_step reads_advance reads_pure

theorem reads_dictKey_other (ho : o.kind ≠ .identifier) (h : Reads E (o :: us) k e) :
    Reads (dictKey E) (o :: us) k e := by
  unfold dictKey
  apply reads_current
  rwa [if_neg ho]

theorem reads_dictPair (hd : Reads (dictKey E) us .colon e) (hx : x.kind = .colon)
    (h : Reads E ws k t) : Reads (dictPair E) (us ++ x :: ws) k (e, t) := by
  unfold dictPair
  simp only [discard_bind]
  apply reads_bind (by rwa [ahead_cons, hx])
  exact reads_step (reads_expect hx) (reads_map h)

end Operands

/-- The parser of a phrase of which there are lists. -/
def Phrase.listParser (n : Nat) : {s : Shape} → Phrase s → Parser s.Carrier
  | _, .expression => expressionWithin n
  | _, .name => do return (← expect .identifier).text
  | _, .pair => dictPair (expressionWithin n)
  | _, _ => throw .depth

/-- How the parser of a phrase treats its tokens. For a chain and a spine it stands in the middle of
its loop; the bounds on the depth leave two calls for every token. -/
def Phrase.Accepted : {s : Shape} → Phrase s → s.Carrier → List Token → Kind → Prop
  | _, .expression, t, us, k => ∀ n, 2 * us.length < n → Reads (expressionWithin n) us k t
  | _, .ternary, t, us, k =>
    ∀ n, 2 * us.length ≤ n → Reads (ternaryOf (expressionWithin n) (unaryWithin n)) us k t
  | _, .tier m, t, us, k => ∀ n, 2 * us.length ≤ n → Reads (tierOf (unaryWithin n) m) us k t
  | _, .chain m, t, us, k => ∀ n, 2 * us.length ≤ n → ∀ r tl, r.kind = k →
    ∃ f, tl.length < f ∧ level (operatorsAt m) (tierOf (unaryWithin n) m) (us ++ r :: tl) =
      operators (operatorsAt m) (tierOf (unaryWithin n) m) f t (r :: tl)
  | _, .spine, t, us, k => ∀ n, 2 * us.length ≤ n + 1 → ∀ r tl, r.kind = k →
    ∃ f, tl.length < f ∧ postfixOf (expressionWithin n) (us ++ r :: tl) =
      accesses (expressionWithin n) f t (r :: tl)
  | _, .primary, t, us, k =>
    ∀ n, 2 * us.length ≤ n + 1 → Reads (primaryOf (expressionWithin n)) us k t
  | _, .name, s, us, k => ∀ n, Reads (Phrase.name.listParser n) us k s
  | _, .pair, q, us, k => ∀ n, 2 * us.length < n → Reads (dictPair (expressionWithin n)) us k q
  | _, .items close lines item, xs, us, k => ∀ n, 2 * us.length < n →
    ∀ f, us.length ≤ f → Reads (closedWithin close (spaced lines (item.listParser n)) f) us k xs

theorem reads_unaryWithin_sign {n : Nat} {o : Token} {x : Node}
    (ho : o.kind = .not ∨ o.kind = .minus) (h : Reads (unaryWithin n) us k x) :
    Reads (unaryWithin (n + 1)) (o :: us) k (.unary o.text x) := by
  rw [unaryWithin]
  apply reads_current
  rw [if_pos (by simpa using ho), discard_bind]
  exact reads_step reads_advance (reads_map h)

theorem reads_unaryWithin_await {n : Nat} {o : Token} {x : Node} (ho : o.kind = .awaitWord)
    (h : Reads (unaryWithin n) us k x) : Reads (unaryWithin (n + 1)) (o :: us) k (.await x) := by
  rw [unaryWithin]
  apply reads_current
  rw [if_neg (by simp [ho]), if_pos ho, discard_bind]
  exact reads_step reads_advance (reads_map h)

theorem reads_unaryWithin_base {n : Nat} {o : Token} {x : Node} (ho : o.kind.isSign = false)
    (h : Reads (postfixOf (expressionWithin n)) (o :: us) k x) :
    Reads (unaryWithin (n + 1)) (o :: us) k x := by
  rw [unaryWithin]
  apply reads_current
  simp only [Kind.isSign, List.contains_eq_mem, List.mem_cons, List.not_mem_nil, or_false,
    decide_eq_false_iff_not, not_or] at ho
  rw [if_neg (by simp [ho]), if_neg ho.2.2]
  exact h

theorem isSign_of_opensPrimary (h : k.opensPrimary = true) : k.isSign = false := by
  cases k <;> simp_all [Kind.opensPrimary, Kind.isSign]

theorem ne_rparen_of_opensExpression (h : k.opensExpression = true) : k ≠ .rparen := by
  rintro rfl
  exact absurd h (by decide)

theorem opens_parameters {ps : List String} (h : Spells .parameters ps us k) :
    ahead us k = .identifier ∨ ahead us k = .rparen := by
  rcases h.opens with hk | hk
  · exact .inr hk
  · exact .inl hk

/-- One more round of the loop over accesses. -/
theorem accepted_access {e e' : Node} (hne : vs ≠ []) (he : Phrase.spine.Accepted e us (ahead vs k))
    (hv : ∀ n, 2 * vs.length ≤ n + 1 → Reads (access? (expressionWithin n) e) vs k (some e')) :
    Phrase.spine.Accepted e' (us ++ vs) k := by
  intro n hn r tl hr
  have hpos := List.length_pos_iff.mpr hne
  simp only [List.length_append] at hn
  obtain ⟨x, xl, hx, hk⟩ := exists_head vs tl hr
  have hl := congrArg List.length hx
  simp only [List.length_append, List.length_cons] at hl
  obtain ⟨f, hf, hp⟩ := he n (by omega) x xl hk
  obtain ⟨g, rfl⟩ : ∃ g, f = g + 1 := ⟨f - 1, by omega⟩
  refine ⟨g, by omega, ?_⟩
  rw [List.append_assoc, hx, hp, ← hx]
  exact accesses_more (hv n (by omega)) hr tl g

theorem Spells.accepted {s : Shape} {c : Phrase s} {a : s.Carrier} (h : Spells c a us k) :
    c.Accepted a us k := by
  induction h with
  | assignment _ ho _ ihu ihv =>
    intro n hn
    simp only [List.length_append, List.length_cons] at hn
    obtain ⟨m, rfl⟩ : ∃ m, n = m + 1 := ⟨n - 1, by omega⟩
    rw [expressionWithin]
    exact reads_assignmentOf (ihu m (by omega)) ho (ihv m (by omega))
  | value _ hk ih =>
    intro n hn
    obtain ⟨m, rfl⟩ : ∃ m, n = m + 1 := ⟨n - 1, by omega⟩
    rw [expressionWithin]
    exact reads_assignmentOf_value (ih m (by omega)) hk
  | choice _ hq _ hs _ ihu ihv ihw =>
    intro n hn
    simp only [List.length_append, List.length_cons] at hn
    exact reads_ternaryOf (ihu n (by omega)) hq (ihv n (by omega)) hs (ihw n (by omega))
  | operation _ hk ih =>
    intro n hn
    exact reads_ternaryOf_value (ih n hn) hk
  | operand _ ih =>
    intro n hn r tl hr
    exact ⟨_, by simp, level_start (ih n hn) hr tl⟩
  | @binary _ _ _ us vs o _ _ ho _ ihl ihr =>
    intro n hn r tl hr
    simp only [List.length_append, List.length_cons] at hn
    obtain ⟨f, hf, he⟩ := ihl n (by omega) o (vs ++ r :: tl) rfl
    simp only [List.length_append, List.length_cons] at hf
    obtain ⟨g, rfl⟩ : ∃ g, f = g + 1 := ⟨f - 1, by omega⟩
    refine ⟨g, by omega, ?_⟩
    rw [List.append_assoc, List.cons_append, he]
    exact operators_more ho (ihr n (by omega)) hr tl g
  | level _ hk ih =>
    intro n hn r tl hr
    obtain ⟨f, hf, he⟩ := ih n hn r tl hr
    obtain ⟨g, rfl⟩ : ∃ g, f = g + 1 := ⟨f - 1, by omega⟩
    rw [tierOf, he]
    exact operators_stop (by rwa [hr]) tl g
  | unary ho _ ih =>
    intro n hn
    simp only [List.length_cons] at hn
    obtain ⟨m, rfl⟩ : ∃ m, n = m + 1 := ⟨n - 1, by omega⟩
    exact reads_unaryWithin_sign ho (ih m (by omega))
  | await ho _ ih =>
    intro n hn
    simp only [List.length_cons] at hn
    obtain ⟨m, rfl⟩ : ∃ m, n = m + 1 := ⟨n - 1, by omega⟩
    exact reads_unaryWithin_await ho (ih m (by omega))
  | @accessed _ us _ h hk ih =>
    intro n hn
    cases us with
    | nil => exact absurd rfl h.ne_nil
    | cons o us =>
      obtain ⟨m, rfl⟩ : ∃ m, n = m + 1 := ⟨n - 1, by simp only [List.length_cons] at hn; omega⟩
      apply reads_unaryWithin_base (isSign_of_opensPrimary h.opens)
      intro r tl hr
      obtain ⟨f, hf, he⟩ := ih m hn r tl hr
      obtain ⟨g, rfl⟩ : ∃ g, f = g + 1 := ⟨f - 1, by omega⟩
      rw [he]
      exact accesses_stop (by rwa [hr]) tl g
  | base _ ih =>
    intro n hn r tl hr
    exact ⟨_, by simp, postfixOf_start (ih n hn) hr tl⟩
  | member _ hd hx ih =>
    apply accepted_access (by simp) (by rwa [ahead_cons, hd])
    intro n _
    exact access?_member hd hx
  | call _ ho _ ihe ihx =>
    apply accepted_access (by simp) (by rwa [ahead_cons, ho])
    intro n hn
    simp only [List.length_cons] at hn
    exact access?_call ho (reads_closedBy (ihx n (by omega)))
  | index _ ho _ hc ihe ihi =>
    apply accepted_access (by simp) (by rwa [ahead_cons, ho])
    intro n hn
    simp only [List.length_append, List.length_cons] at hn
    exact access?_index ho (ihi n (by omega)) hc
  | leaf h =>
    intro n _
    exact reads_primaryOf_leaf h
  | parenthesized ho h hi hc ih =>
    intro n hn
    simp only [List.length_append, List.length_cons] at hn
    apply reads_primaryOf_parenthesis ho
    have hr := ne_rparen_of_opensExpression h.opens
    exact reads_parenthesized hi hr (ih n (by omega)) hc
  | skipped ho hp hv _ hc ihp ih =>
    intro n hn
    simp only [List.length_append, List.length_cons] at hn
    apply reads_primaryOf_parenthesis ho
    have hps := reads_closedBy (ihp n (by omega))
    exact reads_parenthesized_skipped (opens_parameters hp) hps hv (ih n (by omega)) hc
  | lambda ho hp ha _ ihp ih =>
    intro n hn
    simp only [List.length_append, List.length_cons] at hn
    apply reads_primaryOf_parenthesis ho
    have hps := reads_closedBy (ihp n (by omega))
    exact reads_parenthesized_lambda (opens_parameters hp) hps ha (ih n (by omega))
  | thunk ha _ ih =>
    intro n hn
    simp only [List.length_cons] at hn
    exact reads_primaryOf_thunk ha (ih n (by omega))
  | list ho hs hu _ ih =>
    intro n hn
    simp only [List.length_append, List.length_cons] at hn
    exact reads_primaryOf_list ho (reads_bracketItems hs hu (reads_closedBy (ih n (by omega))))
  | dict ho hs hu _ ih =>
    intro n hn
    simp only [List.length_append, List.length_cons] at hn
    exact reads_primaryOf_dict ho (reads_bracketItems hs hu (reads_closedBy (ih n (by omega))))
  | name h => 
    intro n
    exact reads_map (reads_expect h)
  | named hx hc _ ih =>
    intro n hn
    simp only [List.length_cons] at hn
    exact reads_dictPair (reads_dictKey_name hx) hc (ih n (by omega))
  | @keyed _ _ us _ _ _ h hi hc _ ihk ih =>
    intro n hn
    simp only [List.length_append, List.length_cons] at hn
    cases us with
    | nil => exact absurd rfl h.ne_nil
    | cons o us =>
      exact reads_dictPair (reads_dictKey_other hi (ihk n (by omega))) hc (ih n (by omega))
  | nil h =>
    intro n _ f _
    exact reads_closedWithin_nil h f
  | @cons _ item close lines x xs us cs ns vs k hi hc hl hx hs hn hf hv _ ihx ih =>
    intro n hm f hg
    have hpos := List.length_pos_iff.mpr hx.ne_nil
    simp only [List.length_append] at hm hg
    obtain ⟨g, rfl⟩ : ∃ g, f = g + 1 := ⟨f - 1, by omega⟩
    have hp : Reads (item.listParser n) us (ahead (cs ++ (ns ++ vs)) k) x := by
      cases hi with
      | expression => exact ihx n (by omega)
      | name => exact ihx n
      | pair => exact ihx n (by omega)
    have he : us ++ (cs ++ (ns ++ vs)) = (us ++ (cs ++ ns)) ++ vs := by simp
    rw [he] at hc hl ⊢
    apply reads_closedWithin_cons hc
    · simp only [ahead_append] at hl hp hs ⊢
      exact reads_spaced (by simpa using hl) (by simpa using hp) hs hn hf hv
    · exact ih n (by omega) g (by omega)

/-- A spelled expression is read whole, and nothing after it. -/
theorem Spells.reads {t : Node} (h : Spells .expression t us k) : Reads expression us k t := by
  intro r tl hr
  have hd : 2 * us.length < depthFor (us ++ r :: tl) := by
    simp only [depthFor, List.length_append]
    omega
  exact h.accepted _ hd r tl hr

end FloScript.Parser
