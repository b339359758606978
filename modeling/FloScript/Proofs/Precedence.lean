import FloScript.Proofs.ParsedTrees
import FloScript.Proofs.Printing

/-! Precedence in the trees of expressions. A tree has a level, which is that of its outermost
operator. Where nothing is put in parentheses, the operands that an operator is given by the parser
bind at least as tightly as the operator, and the right one more tightly. -/
namespace FloScript

/-- How tightly an operator between two operands binds, and 0 for all that is no such operator. -/
def Kind.precedence : Kind → Nat
  | or => 1
  | and => 2
  | equal | notEqual => 3
  | lessThan | greaterThan | lessEqual | greaterEqual => 4
  | plus | minus => 5
  | multiply | divide | modulo => 6
  | _ => 0

theorem Kind.precedence_of_mem {k : Kind} {n : Nat} (h : k ∈ Parser.operatorsAt n) :
    k.precedence = Parser.topTier - n := by
  unfold Parser.operatorsAt at h
  split at h <;> simp only [List.mem_cons, List.not_mem_nil, or_false] at h
  · rcases h with rfl | rfl | rfl <;> rfl
  · rcases h with rfl | rfl <;> rfl
  · rcases h with rfl | rfl | rfl | rfl <;> rfl
  · rcases h with rfl | rfl <;> rfl
  · obtain rfl := h; rfl
  · obtain rfl := h; rfl

namespace Node

section Levels

/-- Nodes without parts that are expressions. -/
def IsLeaf : Node → Prop
  | number _ | string _ | boolean _ | null | identifier _ => True
  | _ => False

/-- The level of an expression: 0 for assignments and choices, the precedence of an operator between
two operands, 7 for a sign or an await, 8 for an access and 9 for what stands by itself. -/
def strength : Node → Nat
  | binary _ op _ => (operator? op).elim 0 (·.1.precedence)
  | unary .. | await _ => 7
  | member .. | index .. | call .. => 8
  | number _ | string _ | boolean _ | null | identifier _ | list _ | dict _ | function .. => 9
  | _ => 0

/-- The operands of the node are of the levels that it asks for. -/
def Graded : Node → Prop
  | binary l op r => ∃ k n, operator? op = some (k, n) ∧ 0 < k.precedence ∧
      k.precedence ≤ l.strength ∧ k.precedence < r.strength
  | unary _ x | await x => 7 ≤ x.strength
  | member x _ | index x _ | call x _ => 8 ≤ x.strength
  | conditional c _ _ => 0 < c.strength
  | _ => True

/-- An expression of level `n` or above, whose operators between two operands are tokens of `ts`.
The level of an operator is that of the kind of its token, however the token is spelled. -/
inductive Binds (ts : List Token) : Nat → Node → Prop where
  | assignment (name : String) {v : Node} : Binds ts 0 v → Binds ts 0 (.assignment name v)
  | choice {c a b : Node} :
      Binds ts 1 c → Binds ts 0 a → Binds ts 0 b → Binds ts 0 (.conditional c [a] (some [b]))
  | binary {n : Nat} {o : Token} {l r : Node} :
      o ∈ ts → 0 < o.kind.precedence → n ≤ o.kind.precedence →
      Binds ts o.kind.precedence l → Binds ts (o.kind.precedence + 1) r →
      Binds ts n (.binary l o.text r)
  | unary {n : Nat} (op : String) {x : Node} : n ≤ 7 → Binds ts 7 x → Binds ts n (.unary op x)
  | await {n : Nat} {x : Node} : n ≤ 7 → Binds ts 7 x → Binds ts n (.await x)
  | member {n : Nat} {x : Node} (name : String) : n ≤ 8 → Binds ts 8 x → Binds ts n (.member x name)
  | index {n : Nat} {x i : Node} : n ≤ 8 → Binds ts 8 x → Binds ts 0 i → Binds ts n (.index x i)
  | leaf {n : Nat} {x : Node} : n ≤ 9 → IsLeaf x → Binds ts n x
  | list {n : Nat} {xs : List Node} : n ≤ 9 → (∀ x ∈ xs, Binds ts 0 x) → Binds ts n (.list xs)
  | dict {n : Nat} {ps : List (Node × Node)} :
      n ≤ 9 → (∀ p ∈ ps, Binds ts 0 p.1) → (∀ p ∈ ps, Binds ts 0 p.2) →
      Binds ts n (.dict ps)
  | lambda {n : Nat} {x : Node} : n ≤ 9 → Binds ts 0 x → Binds ts n (Parser.lambda [] x)

variable {ts : List Token} {m n : Nat} {x : Node}

theorem Binds.mono (h : Binds ts n x) (hm : m ≤ n) : Binds ts m x := by
  cases h with
  | assignment name hv =>
    obtain rfl := Nat.le_zero.mp hm
    exact .assignment name hv
  | choice hc ha hb =>
    obtain rfl := Nat.le_zero.mp hm
    exact .choice hc ha hb
  | binary ho hpos hn hl hr => exact .binary ho hpos (hm.trans hn) hl hr
  | unary op hn hx => exact .unary op (hm.trans hn) hx
  | await hn hx => exact .await (hm.trans hn) hx
  | member name hn hx => exact .member name (hm.trans hn) hx
  | index hn hx hi => exact .index (hm.trans hn) hx hi
  | leaf hn hx => exact .leaf (hm.trans hn) hx
  | list hn hxs => exact .list (hm.trans hn) hxs
  | dict hn hkeys hvalues => exact .dict (hm.trans hn) hkeys hvalues
  | lambda hn hx => exact .lambda (hm.trans hn) hx

theorem symbol_of_precedence {k : Kind} (h : 0 < k.precedence) :
    ∃ s n, k.symbol? = some s ∧ operator? s = some (k, n) := by
  cases k with
  | or | and | equal | notEqual | lessThan | greaterThan | lessEqual | greaterEqual | plus | minus
  | multiply | divide
  | modulo => exact ⟨_, _, rfl, rfl⟩
  | _ => exact absurd h (by decide)

theorem operator?_of_apt {o : Token} (h : o.Apt) (ho : 0 < o.kind.precedence) :
    ∃ n, operator? o.text = some (o.kind, n) := by
  obtain ⟨s, n, hs, hop⟩ := symbol_of_precedence ho
  exact ⟨n, by rw [h s hs, hop]⟩

/-- Where operators are spelled as their kinds are, the levels can be seen in the tree. -/
theorem Binds.graded (hts : ∀ t ∈ ts, t.Apt) (h : Binds ts n x) :
    n ≤ x.strength ∧ Everywhere children Graded x := by
  induction h with
  | assignment name _ ih =>
    exact ⟨Nat.zero_le _, everywhere_iff.mpr ⟨trivial, by simpa [children] using ih.2⟩⟩
  | choice _ _ _ ihc iha ihb =>
    exact ⟨Nat.zero_le _,
      everywhere_iff.mpr ⟨ihc.1, by simpa [children] using ⟨ihc.2, iha.2, ihb.2⟩⟩⟩
  | @binary n o l r ho hpos hn _ _ ihl ihr =>
    obtain ⟨m, hop⟩ := operator?_of_apt (hts o ho) hpos
    refine ⟨by simpa [strength, hop] using hn, everywhere_iff.mpr ⟨?_, by
      simpa [children] using ⟨ihl.2, ihr.2⟩⟩⟩
    exact ⟨o.kind, m, hop, hpos, ihl.1, ihr.1⟩
  | unary op hn _ ih => exact ⟨hn, everywhere_iff.mpr ⟨ih.1, by simpa [children] using ih.2⟩⟩
  | await hn _ ih => exact ⟨hn, everywhere_iff.mpr ⟨ih.1, by simpa [children] using ih.2⟩⟩
  | member name hn _ ih => exact ⟨hn, everywhere_iff.mpr ⟨ih.1, by simpa [children] using ih.2⟩⟩
  | index hn _ _ ihx ihi =>
    exact ⟨hn, everywhere_iff.mpr ⟨ihx.1, by simpa [children] using ⟨ihx.2, ihi.2⟩⟩⟩
  | @leaf n x hn hx =>
    cases x with
    | number | string | boolean | null | identifier =>
      exact ⟨hn, everywhere_iff.mpr ⟨trivial, by simp [children]⟩⟩
    | _ => exact hx.elim
  | list hn _ ih => exact ⟨hn, everywhere_iff.mpr ⟨trivial, fun x hx => (ih x hx).2⟩⟩
  | dict hn _ _ ihk ihv =>
    refine ⟨hn, everywhere_iff.mpr ⟨trivial, fun x hx => ?_⟩⟩
    obtain ⟨p, hp, hx⟩ := List.mem_flatMap.mp hx
    simp only [List.mem_cons, List.not_mem_nil, or_false] at hx
    rcases hx with rfl | rfl
    · exact (ihk p hp).2
    · exact (ihv p hp).2
  | lambda hn _ ih =>
    have hreturn : Everywhere children Graded (.returning (some _)) :=
      everywhere_iff.mpr ⟨trivial, by simpa [children] using ih.2⟩
    exact ⟨hn, everywhere_iff.mpr ⟨trivial, by simpa [Parser.lambda, children] using hreturn⟩⟩

end Levels

end Node

namespace Parser

open Node (Binds)

variable {α β : Type} {whole : List Token} {p : Parser α} {f : α → Parser β}
  {Q : α → Prop} {R : β → Prop} {a : α} {k close : Kind}

/-- Among tokens of `whole`, the parser gives only what has the property, and leaves tokens of
`whole`. -/
def Yields (whole : List Token) (p : Parser α) (Q : α → Prop) : Prop :=
  ∀ ts a rest, ts ⊆ whole → p ts = .ok a rest → rest ⊆ whole ∧ Q a

section Steps

theorem Yields.bind (hp : Yields whole p Q) (hf : ∀ a, Q a → Yields whole (f a) R) :
    Yields whole (p >>= f) R := by
  intro ts b rest hts h
  obtain ⟨a, us, ha, hb⟩ := bind_eq_ok.mp h
  obtain ⟨hus, hQ⟩ := hp ts a us hts ha
  exact hf a hQ us b rest hus hb

theorem yields_pure (h : Q a) : Yields whole (pure a) Q := by
  intro ts b rest hts hb
  obtain ⟨rfl, rfl⟩ := pure_eq_ok.mp hb
  exact ⟨hts, h⟩

theorem yields_throw (e : Fault) : Yields whole (throw e : Parser α) Q := by
  intro ts a rest _ h
  cases h

theorem yields_get : Yields whole (get : Parser (List Token)) fun _ => True := by
  intro ts a rest hts h
  cases h
  exact ⟨hts, trivial⟩

theorem yields_current : Yields whole current (· ∈ whole) := by
  intro ts t rest hts h
  obtain ⟨rfl, tl, rfl⟩ := current_eq_ok h
  exact ⟨hts, hts (by simp)⟩

theorem yields_currentKind : Yields whole currentKind fun k => ∃ t ∈ whole, t.kind = k :=
  yields_current.bind fun t ht => yields_pure ⟨t, ht, rfl⟩

theorem yields_advance : Yields whole advance fun _ => True := by
  intro ts t rest hts h
  refine ⟨?_, trivial⟩
  cases ts with
  | nil => cases h
  | cons u us =>
    cases us with
    | nil =>
      cases h
      exact hts
    | cons v us =>
      cases h
      exact fun w hw => hts (List.mem_cons_of_mem _ hw)

theorem yields_reject (cause : SourceFault) : Yields whole (reject cause : Parser α) Q :=
  yields_current.bind fun _ _ => yields_throw _

theorem yields_expect (k : Kind) : Yields whole (expect k) fun _ => True := by
  refine yields_current.bind fun t _ => ?_
  split
  · exact yields_advance
  · exact yields_reject _

theorem yields_accept (k : Kind) :
    Yields whole (accept k) fun b => b = true → ∃ t ∈ whole, t.kind = k := by
  refine yields_currentKind.bind fun j hj => ?_
  split
  · next hk =>
    rw [discard_bind]
    exact yields_advance.bind fun _ _ => yields_pure fun _ => hk ▸ hj
  · exact yields_pure fun h => absurd h (by decide)

/-- Going on in one way behind a token of some kind, and in another way without it. -/
theorem yields_either {g h : Parser β} (hg : (∃ t ∈ whole, t.kind = k) → Yields whole g R)
    (hh : Yields whole h R) :
    Yields whole (accept k >>= fun b => if b = true then g else h) R := by
  refine (yields_accept k).bind fun b hb => ?_
  cases b with
  | true => exact hg (hb rfl)
  | false => exact hh

theorem dropNewlines_subset (ts : List Token) : dropNewlines ts ⊆ ts := by
  induction ts using dropNewlines.induct with
  | case1 t u ts hk ih =>
    rw [dropNewlines, if_pos hk]
    exact List.subset_cons_of_subset _ ih
  | case2 t u ts hk =>
    rw [dropNewlines, if_neg hk]
    exact List.Subset.refl _
  | case3 ts hts =>
    rw [dropNewlines]
    · exact List.Subset.refl _
    · exact hts

theorem yields_skipNewlines : Yields whole skipNewlines fun _ => True := by
  unfold skipNewlines
  rw [discard_bind]
  refine yields_current.bind fun _ _ ts v rest hts h => ?_
  cases h
  exact ⟨List.Subset.trans (dropNewlines_subset ts) hts, trivial⟩

end Steps

section Lists

theorem yields_itemsUntil (hp : Yields whole p Q) (n : Nat) :
    Yields whole (itemsUntil close p n) (∀ x ∈ ·, Q x) := by
  induction n with
  | zero =>
    refine yields_currentKind.bind fun k _ => ?_
    split
    · exact yields_pure (List.forall_mem_nil _)
    · exact yields_throw _
  | succ n ih =>
    refine yields_currentKind.bind fun k _ => ?_
    split
    · exact yields_pure (List.forall_mem_nil _)
    · exact hp.bind fun x hx =>
        ih.bind fun xs hxs => yields_pure (List.forall_mem_cons.mpr ⟨hx, hxs⟩)

theorem yields_closedBy (hp : Yields whole p Q) :
    Yields whole (closedBy close p) (∀ x ∈ ·, Q x) := by
  refine yields_get.bind fun _ _ => (yields_itemsUntil hp _).bind fun xs hxs => ?_
  rw [discard_bind]
  exact (yields_expect close).bind fun _ _ => yields_pure hxs

theorem yields_commaAfter (hp : Yields whole p Q) : Yields whole (commaAfter p) Q := by
  refine hp.bind fun x hx => ?_
  rw [discard_bind]
  exact (yields_accept .comma).bind fun _ _ => yields_pure hx

theorem yields_bracketItems (hp : Yields whole p Q) :
    Yields whole (bracketItems close p) (∀ x ∈ ·, Q x) := by
  refine yields_skipNewlines.bind fun _ _ => yields_closedBy ?_
  refine yields_skipNewlines.bind fun _ _ => (yields_commaAfter hp).bind fun x hx => ?_
  exact yields_skipNewlines.bind fun _ _ => yields_pure hx

end Lists

section Expressions

variable {E U : Parser Node} {e left : Node} {n : Nat}

/-- Operators of one level: the left operand may be one of them, the right operand is above them. -/
theorem yields_operators {kinds : List Kind} (hkinds : ∀ k ∈ kinds, k.precedence = n) (hn : 0 < n)
    (hU : Yields whole U (Binds whole (n + 1))) (m : Nat) (hl : Binds whole n left) :
    Yields whole (operators kinds U m left) (Binds whole n) := by
  induction m generalizing left with
  | zero =>
    refine yields_currentKind.bind fun k _ => ?_
    split
    · exact yields_throw _
    · exact yields_pure hl
  | succ m ih =>
    refine yields_current.bind fun t ht => ?_
    split
    · exact yields_pure hl
    · next hk =>
      have hlevel : t.kind.precedence = n := hkinds t.kind (by simpa using hk)
      rw [discard_bind]
      refine yields_advance.bind fun _ _ => hU.bind fun r hr => ih ?_
      rw [← hlevel] at hl hr hn ⊢
      exact .binary ht hn le_rfl hl hr

theorem yields_tierOf (hU : Yields whole U (Binds whole (topTier + 1)))
    (m : Nat) (hm : m ≤ topTier) :
    Yields whole (tierOf U m) (Binds whole (topTier + 1 - m)) := by
  induction m with
  | zero => exact hU
  | succ m ih =>
    have hlevel : topTier + 1 - (m + 1) = topTier - m := by omega
    have hnext : topTier + 1 - m = topTier - m + 1 := by omega
    rw [hlevel]
    have ih := ih (by omega)
    rw [hnext] at ih
    refine ih.bind fun x hx => yields_get.bind fun _ _ => ?_
    exact yields_operators (fun k hk => Kind.precedence_of_mem hk)
      (by omega) ih _ (hx.mono (by omega))

theorem yields_ternaryOf (hE : Yields whole E (Binds whole 0))
    (hU : Yields whole U (Binds whole 7)) :
    Yields whole (ternaryOf E U) (Binds whole 0) := by
  unfold ternaryOf
  rw [disjunctionOf_eq_tierOf]
  refine (yields_tierOf hU topTier le_rfl).bind fun c hc => ?_
  refine yields_either (fun _ => ?_) (yields_pure (hc.mono (by decide)))
  refine hE.bind fun x hx => ?_
  rw [discard_bind]
  exact (yields_expect .colon).bind fun _ _ => hE.bind fun y hy => yields_pure (.choice hc hx hy)

theorem yields_assignmentOf (hE : Yields whole E (Binds whole 0))
    (hU : Yields whole U (Binds whole 7)) :
    Yields whole (assignmentOf E U) (Binds whole 0) := by
  refine (yields_ternaryOf hE hU).bind fun target ht => yields_currentKind.bind fun k _ => ?_
  split
  · exact yields_pure ht
  · split
    · rw [discard_bind]
      exact yields_advance.bind fun _ _ => hE.bind fun v hv => yields_pure (.assignment _ hv)
    · exact yields_reject _

theorem yields_dictPair (hE : Yields whole E (Binds whole 0)) :
    Yields whole (dictPair E) fun p => Binds whole 0 p.1 ∧ Binds whole 0 p.2 := by
  have hkey : Yields whole (dictKey E) (Binds whole 0) := by
    refine yields_current.bind fun t _ => ?_
    split
    · rw [discard_bind]
      exact yields_advance.bind fun _ _ => yields_pure (.leaf (by decide) trivial)
    · exact hE
  refine hkey.bind fun x hx => ?_
  rw [discard_bind]
  exact (yields_expect .colon).bind fun _ _ => hE.bind fun y hy => yields_pure ⟨hx, hy⟩

theorem yields_primaryOf (hparen : ∀ t ∈ whole, t.kind ≠ .lparen)
    (hE : Yields whole E (Binds whole 0)) :
    Yields whole (primaryOf E) (Binds whole 9) := by
  refine yields_current.bind fun t ht => ?_
  have leaf {x : Node} (hx : x.IsLeaf) :
      Yields whole (advance >>= fun _ => pure x) (Binds whole 9) :=
    yields_advance.bind fun _ _ => yields_pure (.leaf le_rfl hx)
  simp only [discard_bind]
  split
  · exact leaf trivial
  · exact leaf trivial
  · exact leaf trivial
  · exact leaf trivial
  · exact leaf trivial
  · exact leaf trivial
  · next hk => exact absurd hk (hparen t ht)
  · exact yields_advance.bind fun _ _ =>
      (yields_bracketItems hE).bind fun xs hxs => yields_pure (.list le_rfl hxs)
  · refine yields_advance.bind fun _ _ =>
      (yields_bracketItems (yields_dictPair hE)).bind fun ps hps => yields_pure ?_
    exact .dict le_rfl (fun p hp => (hps p hp).1) fun p hp => (hps p hp).2
  · exact yields_advance.bind fun _ _ => hE.bind fun x hx => yields_pure (.lambda le_rfl hx)
  · exact yields_reject _

theorem yields_access? (hparen : ∀ t ∈ whole, t.kind ≠ .lparen)
    (hE : Yields whole E (Binds whole 0)) (he : Binds whole 8 e) :
    Yields whole (access? E e) (∀ x ∈ ·, Binds whole 8 x) := by
  simp only [access?, discard_bind]
  refine yields_either (fun _ => ?_)
    (yields_either ?_ (yields_either (fun _ => ?_) (yields_pure (by simp))))
  · refine (yields_expect .identifier).bind fun t _ => yields_pure fun x hx => ?_
    cases hx
    exact .member _ le_rfl he
  · rintro ⟨t, ht, hk⟩
    exact absurd hk (hparen t ht)
  · refine hE.bind fun i hi => (yields_expect .rbracket).bind fun _ _ => yields_pure fun x hx => ?_
    cases hx
    exact .index le_rfl he hi

theorem yields_accesses (hparen : ∀ t ∈ whole, t.kind ≠ .lparen)
    (hE : Yields whole E (Binds whole 0)) (m : Nat) (he : Binds whole 8 e) :
    Yields whole (accesses E m e) (Binds whole 8) := by
  induction m generalizing e with
  | zero =>
    refine (yields_access? hparen hE he).bind fun o _ => ?_
    cases o with
    | some _ => exact yields_throw _
    | none => exact yields_pure he
  | succ m ih =>
    refine (yields_access? hparen hE he).bind fun o ho => ?_
    cases o with
    | some x => exact ih (ho x rfl)
    | none => exact yields_pure he

theorem yields_within (hparen : ∀ t ∈ whole, t.kind ≠ .lparen) (n : Nat) :
    Yields whole (expressionWithin n) (Binds whole 0) ∧
      Yields whole (unaryWithin n) (Binds whole 7) := by
  induction n with
  | zero => exact ⟨yields_throw _, yields_throw _⟩
  | succ n ih =>
    obtain ⟨hE, hU⟩ := ih
    refine ⟨yields_assignmentOf hE hU, yields_current.bind fun t _ => ?_⟩
    simp only [discard_bind]
    split
    · exact yields_advance.bind fun _ _ => hU.bind fun x hx => yields_pure (.unary _ le_rfl hx)
    split
    · exact yields_advance.bind fun _ _ => hU.bind fun x hx => yields_pure (.await le_rfl hx)
    · refine (yields_primaryOf hparen hE).bind fun e he =>
        yields_get.bind fun _ _ ts x rest hts h => ?_
      obtain ⟨hrest, hx⟩ := yields_accesses hparen hE _ (he.mono (by decide)) ts x rest hts h
      exact ⟨hrest, hx.mono (by decide)⟩

/-- In an expression that is read from tokens without an opening parenthesis, every operator has
operands of the levels that it asks for. This is said with the kinds of the tokens; if these are
spelled as their kinds are, the tree shows it. -/
theorem expression_precedence {ts rest : List Token} {x : Node}
    (hparen : ∀ t ∈ ts, t.kind ≠ .lparen) (h : expression ts = .ok x rest) :
    Binds ts 0 x ∧ ((∀ t ∈ ts, t.Apt) → Node.Everywhere Node.children Node.Graded x) := by
  obtain ⟨-, hx⟩ := (yields_within hparen _).1 ts x rest (List.Subset.refl ts) h
  exact ⟨hx, fun hapt => (hx.graded hapt).2⟩

/-- The tree of `x = a + b * -c[i ? 1 : 2].m`. -/
def mixed : Node :=
  .assignment "x" (.binary (.identifier "a") "+" (.binary (.identifier "b") "*" (.unary "-" (.member
    (.index (.identifier "c")
      (.conditional (.identifier "i") [.number (.int 1)] (some [.number (.int 2)]))) "m"))))

/-- Its tokens, with an end mark. -/
def mixedTokens : List Token :=
  (mixed.lexemes ++ [(Kind.eof, Literal.null)]).map (Lexeme.token ⟨1, 1⟩)

theorem expression_precedence_mixed :
    (∀ t ∈ mixedTokens, t.kind ≠ .lparen) ∧
      expression mixedTokens = .ok mixed [⟨.eof, .null, ⟨1, 1⟩⟩] ∧
      Binds mixedTokens 0 mixed ∧ Node.Everywhere Node.children Node.Graded mixed := by
  have hparen : ∀ t ∈ mixedTokens, t.kind ≠ .lparen := by decide
  have hread : expression mixedTokens = .ok mixed [⟨.eof, .null, ⟨1, 1⟩⟩] := rfl
  have hapt : ∀ t ∈ mixedTokens, ∀ s ∈ t.kind.symbol?, t.text = s := by decide
  obtain ⟨hbinds, hgraded⟩ := expression_precedence hparen hread
  exact ⟨hparen, hread, hbinds, hgraded hapt⟩

end Expressions

end Parser
end FloScript
