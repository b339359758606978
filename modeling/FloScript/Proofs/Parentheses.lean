import FloScript.Proofs.Acceptance
import FloScript.Proofs.Recognition

/-! Parentheses around an expression. They change nothing unless the expression begins with a name:
then what stands between them is taken for a list of parameters, and that reading is never given
up. -/
namespace FloScript.Parser

variable {s : Shape} {c : Phrase s} {a : s.Carrier}
  {us vs ts rest : List Token} {k : Kind} {t : Node} {f : Fault}

theorem continues_of_mem_operatorsAt {n : Nat} (h : k ∈ operatorsAt n) : k.continues = true := by
  cases hk : k.continues with
  | true => rfl
  | false => exact absurd h (not_mem_operatorsAt hk n)

/-- If the tokens begin with a name, then they are that name alone or go on with a token that
continues it. -/
def NameGoesOn (us : List Token) : Prop :=
  ∀ x vs, us = x :: vs → x.kind = .identifier → vs = [] ∨ ∃ y ws, vs = y :: ws ∧
    y.kind.continues = true

theorem nameGoesOn_append {o : Token} (hne : us ≠ []) (hu : NameGoesOn us)
    (ho : o.kind.continues = true) :
    NameGoesOn (us ++ o :: vs) := by
  intro x ws he hx
  cases us with
  | nil => exact absurd rfl hne
  | cons u us =>
    cases he
    obtain rfl | ⟨y, ys, rfl, hy⟩ := hu x us rfl hx
    · exact .inr ⟨o, vs, rfl, ho⟩
    · exact .inr ⟨y, ys ++ o :: vs, rfl, hy⟩

theorem nameGoesOn_cons {o : Token} (ho : o.kind ≠ .identifier) : NameGoesOn (o :: us) := by
  intro x vs he hx
  cases he
  exact absurd hx ho

theorem Spells.nameGoesOn (h : Spells c a us k) (hs : s = .node) : NameGoesOn us := by
  induction h with
  | assignment h ho _ ih _ =>
    exact nameGoesOn_append h.ne_nil (ih rfl) (by simp [Kind.continues, ho])
  | choice h ho _ _ _ ih _ _ =>
    exact nameGoesOn_append h.ne_nil (ih rfl) (by simp [Kind.continues, ho])
  | binary h ho _ ih _ =>
    exact nameGoesOn_append h.ne_nil (ih rfl) (continues_of_mem_operatorsAt ho)
  | unary ho _ _ => exact nameGoesOn_cons (by rcases ho with ho | ho <;> simp [ho])
  | member h ho _ ih =>
    exact nameGoesOn_append h.ne_nil (ih rfl) (by simp [Kind.continues, Kind.opensAccess, ho])
  | call h ho _ ih _ =>
    exact nameGoesOn_append h.ne_nil (ih rfl) (by simp [Kind.continues, Kind.opensAccess, ho])
  | index h ho _ _ ih _ =>
    exact nameGoesOn_append h.ne_nil (ih rfl) (by simp [Kind.continues, Kind.opensAccess, ho])
  | leaf h =>
    intro x vs he _
    cases he
    exact .inl rfl
  | await ho | parenthesized ho | skipped ho | lambda ho | thunk ho | list ho | dict ho =>
    exact nameGoesOn_cons (by simp [ho])
  | value _ _ ih | operation _ _ ih | operand _ ih | level _ _ ih | accessed _ _ ih | base _ ih =>
    exact ih rfl
  | name | named | keyed | nil | cons => cases hs

theorem tierOf_error {U : Parser Node} (h : U ts = .error f rest) (n : Nat) :
    tierOf U n ts = .error f rest := by
  induction n with
  | zero => exact h
  | succ n ih => exact bind_of_error ih

theorem expressionWithin_error {n : Nat} (h : unaryWithin n ts = .error f rest) :
    expressionWithin (n + 1) ts = .error f rest := by
  have ht : ternaryOf (expressionWithin n) (unaryWithin n) ts = .error f rest :=
    bind_of_error (tierOf_error h topTier)
  rw [expressionWithin]
  exact bind_of_error ht

theorem unaryWithin_error {n : Nat} {o : Token} (ho : o.kind.isSign = false)
    (h : primaryOf (expressionWithin n) (o :: ts) = .error f rest) :
    unaryWithin (n + 1) (o :: ts) = .error f rest := by
  simp only [Kind.isSign, List.contains_eq_mem, List.mem_cons, List.not_mem_nil, or_false,
    decide_eq_false_iff_not, not_or] at ho
  have hc : current (o :: ts) = .ok o (o :: ts) := rfl
  rw [unaryWithin, bind_of_ok hc, if_neg (by simp [ho]), if_neg ho.2.2]
  exact bind_of_error h

/-- An expression cannot begin with a token of another kind. -/
theorem expressionWithin_unexpected {o : Token} (ho : o.kind.opensExpression = false) (n : Nat) :
    expressionWithin (n + 2) (o :: ts) =
      .error (.grammatical o.place (.unexpectedToken o.kind)) (o :: ts) := by
  simp only [Kind.opensExpression, Bool.or_eq_false_iff] at ho
  apply expressionWithin_error
  apply unaryWithin_error ho.2
  have hc : current (o :: ts) = .ok o (o :: ts) := rfl
  unfold primaryOf
  rw [bind_of_ok hc]
  cases hk : o.kind <;> simp [hk, Kind.opensPrimary] at ho <;> rfl

theorem itemsUntil_error {α : Type} {close : Kind} {item : Parser α}
    {o : Token} (ho : o.kind ≠ close) (h : item (o :: ts) = .error f rest) (n : Nat) :
    itemsUntil close item (n + 1) (o :: ts) = .error f rest := by
  have hc : currentKind (o :: ts) = .ok o.kind (o :: ts) := rfl
  rw [itemsUntil, bind_of_ok hc, if_neg ho]
  exact bind_of_error h

theorem itemsUntil_error_later {α : Type} {close : Kind} {item : Parser α}
    {x : α} {n : Nat} {o : Token} (ho : o.kind ≠ close) (hx : item (o :: ts) = .ok x vs)
    (h : itemsUntil close item n vs = .error f rest) :
    itemsUntil close item (n + 1) (o :: ts) = .error f rest := by
  have hc : currentKind (o :: ts) = .ok o.kind (o :: ts) := rfl
  rw [itemsUntil, bind_of_ok hc, if_neg ho, bind_of_ok hx]
  exact bind_of_error h

theorem closedBy_error {α : Type} {close : Kind} {item : Parser α}
    (h : itemsUntil close item ts.length ts = .error f rest) :
    closedBy close item ts = .error f rest := by
  have hg : (get : Parser (List Token)) ts = .ok ts ts := rfl
  unfold closedBy
  rw [bind_of_ok hg]
  exact bind_of_error h

theorem expect_other {o : Token} (ho : o.kind ≠ k) :
    expect k (o :: ts) = .error (.grammatical o.place (.expected k o.kind)) (o :: ts) := by
  have hc : current (o :: ts) = .ok o (o :: ts) := rfl
  unfold expect
  rw [bind_of_ok hc, if_neg ho]
  rfl

/-- A name that goes on is no list of parameters. -/
theorem parameters_stuck {x y : Token} (hx : x.kind = .identifier) (hy : y.kind.continues = true) :
    parameters (x :: y :: ts) =
      .error (.grammatical y.place (.expected .identifier y.kind)) (y :: ts) := by
  have hcomma : y.kind ≠ .comma := by intro hk; simp [hk, Kind.continues, Kind.opensAccess] at hy
  have hname : y.kind ≠ .identifier := by
    intro hk
    simp [hk, Kind.continues, Kind.opensAccess] at hy
  have hclose : y.kind ≠ .rparen := by intro hk; simp [hk, Kind.continues, Kind.opensAccess] at hy
  have hread :
      commaAfter (do return (← expect .identifier).text) (x :: y :: ts) = .ok x.text (y :: ts) :=
    reads_commaAfter (reads_map (reads_expect hx)) (.nothing hcomma) y ts rfl
  have hfail : commaAfter (do return (← expect .identifier).text) (y :: ts) =
      .error (.grammatical y.place (.expected .identifier y.kind)) (y :: ts) :=
    bind_of_error (bind_of_error (expect_other hname))
  have hstop := itemsUntil_error hclose hfail ts.length
  exact closedBy_error (itemsUntil_error_later (by simp [hx]) hread hstop)

theorem primaryOf_lparen {E : Parser Node} {o u : Token} (ho : o.kind = .lparen) :
    primaryOf E (o :: u :: ts) = parenthesized E (u :: ts) := by
  have hc : current (o :: u :: ts) = .ok o (o :: u :: ts) := rfl
  have ha : advance (o :: u :: ts) = .ok o (u :: ts) := rfl
  unfold primaryOf
  rw [bind_of_ok hc]
  simp only [ho]
  rw [discard_bind, bind_of_ok ha]

theorem parenthesized_name {E : Parser Node} {x : Token} (hx : x.kind = .identifier)
    (h : parameters (x :: ts) = .error f rest) : parenthesized E (x :: ts) = .error f rest := by
  have hc : currentKind (x :: ts) = .ok x.kind (x :: ts) := rfl
  unfold parenthesized
  rw [bind_of_ok hc]
  simp only [hx, decide_true, Bool.true_or, if_true]
  exact bind_of_error h

theorem parenthesized_lone_name {E : Parser Node} {x q : Token} (hx : x.kind = .identifier)
    (hq : q.kind = .rparen) {e : Token} (he : e.kind ≠ .arrow) (h : E (e :: ts) = .error f rest) :
    parenthesized E (x :: q :: e :: ts) = .error f rest := by
  have hc : currentKind (x :: q :: e :: ts) = .ok x.kind (x :: q :: e :: ts) := rfl
  have hs : Spells .parameters [x.text] ([x] ++ ([] ++ ([] ++ [q]))) e.kind :=
    .cons .name (by simp [hx]) (by simp) (.name hx) (.nothing (by simp [hq])) (by simp)
      (by simp) (by simp) (.nil hq)
  have hp : parameters (x :: q :: e :: ts) = .ok [x.text] (e :: ts) :=
    reads_closedBy (hs.accepted 5 (by simp)) e ts rfl
  have ha : accept .arrow (e :: ts) = .ok false (e :: ts) := reads_accept_other he e ts rfl
  unfold parenthesized
  rw [bind_of_ok hc]
  simp only [hx, decide_true, Bool.true_or, if_true]
  rw [bind_of_ok hp, bind_of_ok ha]
  exact bind_of_error h

theorem spells_parenthesized {o q : Token} (ho : o.kind = .lparen) (hq : q.kind = .rparen)
    (h : Spells .expression t us .eof) (hi : ahead us .eof ≠ .identifier)
    (hk : k.continues = false) :
    Spells .expression t (o :: (us ++ [q])) k := by
  have hr : ahead us .rparen ≠ .identifier := by rwa [ahead_of_ne_nil h.ne_nil _ .eof]
  exact Spells.ofPrimary (.parenthesized ho (h.before (by decide)) hr hq) hk

theorem reject_parenthesized {o q e : Token} (ho : o.kind = .lparen) (hq : q.kind = .rparen)
    (he : e.kind = .eof) (h : Spells .expression t us .eof) (hi : ahead us .eof = .identifier) :
    ∃ p cause rest, expression (o :: (us ++ [q, e])) = .error (.grammatical p cause) rest := by
  obtain ⟨n, hn⟩ : ∃ n, depthFor (o :: (us ++ [q, e])) = n + 4 :=
    ⟨2 * (us.length + 5), by simp [depthFor]; omega⟩
  have hsign : o.kind.isSign = false := by simp [Kind.isSign, ho]
  unfold expression
  rw [hn]
  cases us with
  | nil => exact absurd rfl h.ne_nil
  | cons x vs =>
    obtain rfl | ⟨y, ws, rfl, hy⟩ := h.nameGoesOn rfl x vs rfl hi
    · have hopen : e.kind.opensExpression = false := by rw [he]; rfl
      have hend :
          expressionWithin (n + 2) [e] =
            .error (.grammatical e.place (.unexpectedToken e.kind)) [e] :=
        expressionWithin_unexpected hopen n
      refine ⟨e.place, .unexpectedToken e.kind, [e], ?_⟩
      apply expressionWithin_error
      apply unaryWithin_error hsign
      exact (primaryOf_lparen ho).trans (parenthesized_lone_name hi hq (by simp [he]) hend)
    · refine ⟨y.place, .expected .identifier y.kind, y :: (ws ++ [q, e]), ?_⟩
      apply expressionWithin_error
      apply unaryWithin_error hsign
      exact (primaryOf_lparen ho).trans (parenthesized_name hi (parameters_stuck hi hy))

/-- Parentheses around an expression are accepted with the same result exactly if the expression
does not begin with a name; if it does, the tokens are refused. -/
theorem parenthesized_iff {o q e : Token} (ho : o.kind = .lparen)
    (hq : q.kind = .rparen) (he : e.kind = .eof) (h : expression (us ++ [e]) = .ok t [e]) :
    (expression (o :: (us ++ [q, e])) = .ok t [e] ↔ ahead us .eof ≠ .identifier) ∧
      (ahead us .eof = .identifier →
        ∃ p cause rest, expression (o :: (us ++ [q, e])) = .error (.grammatical p cause) rest) := by
  have hs := spells_of_eq_ok he h
  refine ⟨⟨?_, ?_⟩, reject_parenthesized ho hq he hs⟩
  · intro hok hi
    obtain ⟨p, cause, rest, hr⟩ := reject_parenthesized ho hq he hs hi
    rw [hok] at hr
    cases hr
  · intro hi
    have hr := (spells_parenthesized (k := .eof) ho hq hs hi rfl).reads e [] he
    simpa using hr

/-- A number may stand in parentheses and a name may not. -/
theorem parenthesized_number_and_name :
    expression [⟨.lparen, .text "(", ⟨1, 1⟩⟩, ⟨.number, .int 1, ⟨1, 2⟩⟩,
        ⟨.rparen, .text ")", ⟨1, 3⟩⟩,
        ⟨.eof, .null, ⟨1, 4⟩⟩] = .ok (.number (.int 1)) [⟨.eof, .null, ⟨1, 4⟩⟩] ∧
      ∃ p cause rest,
        expression [⟨.lparen, .text "(", ⟨1, 1⟩⟩, ⟨.identifier, .text "x", ⟨1, 2⟩⟩,
          ⟨.rparen, .text ")", ⟨1, 3⟩⟩,
          ⟨.eof, .null, ⟨1, 4⟩⟩] = .error (.grammatical p cause) rest := by
  have hnumber : Whole [⟨.number, .int 1, ⟨1, 2⟩⟩] (.number (.int 1)) := whole_leaf rfl
  have hname : Whole [⟨.identifier, .text "x", ⟨1, 2⟩⟩] (.identifier "x") := whole_leaf rfl
  constructor
  · exact (parenthesized_iff rfl rfl rfl (hnumber _ rfl)).1.mpr (by decide)
  · exact (parenthesized_iff rfl rfl rfl (hname _ rfl)).2 rfl

end FloScript.Parser
