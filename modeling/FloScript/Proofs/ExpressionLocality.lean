import FloScript.Proofs.ParsingEnds

/-! Expressions among other tokens. Of all the tokens around an expression only the one right behind
it has a say in how it is read: if that one goes on with an expression, reading does not stop there,
and otherwise the expression is read as it is read alone. -/
namespace FloScript.Parser

variable {sh : Shape} {p : Phrase sh} {a : sh.Carrier} {k : Kind} {t : Node}
  {c mark : Token} {us rest : List Token}

section Ends

/-- A token of this kind can stand behind the phrase without going on with it. -/
def Phrase.Ends : {sh : Shape} → Phrase sh → Kind → Prop
  | _, .expression, k => k.continues = false
  | _, .ternary, k => Stops topTier k ∧ k ≠ .question
  | _, .tier n, k | _, .chain n, k => Stops n k
  | _, _, _ => True

theorem not_continues_of_stops (h : Stops topTier k) (hq : k ≠ .question) (ha : k ≠ .assign) :
    k.continues = false := by
  revert h hq ha
  cases k <;> decide

/-- A phrase is only at its end where the next token does not go on with it. -/
theorem Spells.ends (h : Spells p a us k) : p.Ends k := by
  induction h with
  | assignment _ _ _ _ ih => exact ih
  | value _ ha ih => exact not_continues_of_stops ih.1 ih.2 ha
  | choice _ _ _ _ _ _ _ ih =>
    refine ⟨stops_of_not_continues ih _, ?_⟩
    rintro rfl
    cases ih
  | operation _ hq ih => exact ⟨ih, hq⟩
  | operand _ ih => exact ih
  | binary _ _ _ _ ih => exact ih
  | @level n _ _ k _ hk ih =>
    refine ⟨ih.1, fun j hj => ?_⟩
    rcases Nat.lt_succ_iff_lt_or_eq.mp hj with hlt | rfl
    · exact ih.2 j hlt
    · exact hk
  | unary _ _ ih => exact ih
  | await _ _ ih => exact ih
  | accessed _ hk _ => exact ⟨hk, by simp⟩
  | _ => trivial

/-- An expression before some token is an expression before the end, and the token does not go on
with it. -/
theorem spells_iff_whole : Spells .expression t us k ↔ Whole us t ∧ k.continues = false := by
  constructor
  · intro h
    exact ⟨whole_iff_spells.mpr (h.before rfl), h.ends⟩
  · rintro ⟨h, hk⟩
    exact (whole_iff_spells.mp h).before hk

end Ends

section Among

theorem remaining_behind (before : List Token) (hne : us ≠ []) :
    (⟨before ++ us, before.length⟩ : Cursor).remaining = us := by
  have hpos := List.length_pos_iff.mpr hne
  have hlt : before.length < (before ++ us).length := by
    rw [List.length_append]
    omega
  rw [remaining_inside hlt, List.drop_left]

theorem run_behind_of_ok {α : Type} {q : Parser α} {a : α} (before : List Token)
    (h : q (us ++ c :: rest) = .ok a (c :: rest)) :
    Cursor.run q ⟨before ++ (us ++ c :: rest), before.length⟩ =
      (.ok a, ⟨before ++ (us ++ c :: rest), before.length + us.length⟩) := by
  have hremaining :
      (⟨before ++ (us ++ c :: rest), before.length⟩ : Cursor).remaining = us ++ c :: rest :=
    remaining_behind before (by simp)
  simp [Cursor.run, hremaining, h]

theorem ok_of_run_behind {α : Type} {q : Parser α} {a : α} {ts : List Token}
    {n : Nat} (before : List Token) (hne : ts ≠ [])
    (h : Cursor.run q ⟨before ++ ts, before.length⟩ = (.ok a, ⟨before ++ ts, before.length + n⟩)) :
    ∃ left, q ts = .ok a left ∧ ts.length - left.length = n := by
  have hremaining := remaining_behind before hne
  cases hq : q ts with
  | error e left => simp [Cursor.run, hremaining, hq] at h
  | ok b left =>
    simp only [Cursor.run, hremaining, hq, Prod.mk.injEq, Except.ok.injEq,
      Cursor.mk.injEq, true_and] at h
    obtain ⟨rfl, hplace⟩ := h
    exact ⟨left, rfl, by omega⟩

theorem Ended.append {ts : List Token} (h : Ended ts) (us : List Token) : Ended (us ++ ts) := by
  obtain ⟨vs, e, rfl, hk⟩ := h
  exact ⟨us ++ vs, e, by rw [List.append_assoc], hk⟩

/-- Where tokens stand among others that end with an end mark, they are read as an expression up to
the token behind them exactly if they are that expression when they stand alone and the token behind
them does not go on with it. -/
theorem run_expression_iff (before : List Token) (he : Ended (c :: rest)) :
    Cursor.run expression ⟨before ++ (us ++ c :: rest), before.length⟩ =
        (.ok t, ⟨before ++ (us ++ c :: rest), before.length + us.length⟩) ↔
      Whole us t ∧ c.kind.continues = false := by
  rw [← spells_iff_whole]
  constructor
  · intro h
    obtain ⟨left, hx, htaken⟩ := ok_of_run_behind before (by simp) h
    obtain ⟨-, vs, hsplit, hs⟩ := recognized_expression _ _ _ (he.append us) hx
    -- the place tells how many tokens were taken, and so which
    have hlen : us.length = vs.length := by
      rw [hsplit, List.length_append] at htaken
      omega
    obtain ⟨rfl, rfl⟩ := List.append_inj hsplit hlen
    exact hs
  · intro h
    exact run_behind_of_ok before (h.reads c rest rfl)

end Among

/-- The kinds of tokens that stand behind expressions in programs. -/
def closers : List Kind :=
  [.newline, .semicolon, .comma, .rparen, .rbracket, .lbrace, .rbrace, .colon, .eof]

theorem not_continues_of_closer (h : k ∈ closers) : k.continues = false := by
  revert h
  cases k <;> decide

/-- Parsing an expression is local. Tokens are read as an expression up to an end mark exactly if
they are read as the same expression where they stand among others, up to the token behind them,
provided that this token is one of those that stand behind expressions. -/
theorem expression_local (hmark : mark.kind = .eof) (hc : c.kind ∈ closers) (he : Ended (c :: rest))
    (before : List Token) :
    Cursor.run expression ⟨us ++ [mark], 0⟩ = (.ok t, ⟨us ++ [mark], us.length⟩) ↔
      Cursor.run expression ⟨before ++ (us ++ c :: rest), before.length⟩ =
        (.ok t, ⟨before ++ (us ++ c :: rest), before.length + us.length⟩) := by
  have halone : Cursor.run expression ⟨us ++ [mark], 0⟩ = (.ok t, ⟨us ++ [mark], us.length⟩) ↔
      Whole us t ∧ mark.kind.continues = false := by
    simpa only [List.nil_append, List.length_nil, Int.natCast_zero, Int.zero_add] using
      run_expression_iff [] ⟨[], mark, rfl, hmark⟩
  have hend : mark.kind.continues = false := by rw [hmark]; rfl
  rw [halone, run_expression_iff before he]
  simp [hend, not_continues_of_closer hc]

/-- A function whose body is a choice. -/
def choosing : List Token :=
  [.lparen, .identifier, .rparen, .arrow, .identifier, .question, .number, .colon, .number].map
    sample

theorem expression_local_choosing : Ended [sample .lbrace, sample .eof] ∧ ∃ t,
    Cursor.run expression ⟨choosing ++ [sample .eof], 0⟩ = (.ok t, ⟨choosing ++ [sample .eof], 9⟩) ∧
    Cursor.run expression ⟨[sample .whileWord] ++ (choosing ++ [sample .lbrace, sample .eof]), 1⟩ =
      (.ok t, ⟨[sample .whileWord] ++ (choosing ++ [sample .lbrace, sample .eof]), 10⟩) := by
  have he : Ended [sample .lbrace, sample .eof] := ⟨[sample .lbrace], sample .eof, rfl, rfl⟩
  let name := (sample .identifier).text
  have halone : Cursor.run expression ⟨choosing ++ [sample .eof], 0⟩ =
      (.ok (lambda [name] (.conditional (.identifier name) [.number .null] (some [.number .null]))),
        ⟨choosing ++ [sample .eof], 9⟩) := rfl
  exact ⟨he, _, halone, (expression_local rfl (by decide) he [sample .whileWord]).mp halone⟩

end FloScript.Parser
