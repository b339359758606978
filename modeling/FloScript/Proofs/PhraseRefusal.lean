import FloScript.Proofs.PrimaryRefusal

/-! What comes of any tokens where an expression should stand. A verdict on the expressions in fewer
tokens gives one on the primaries, and from there it goes up the levels to the expressions in one
token more. -/
namespace FloScript.Parser

variable {k : Kind} {t o q : Token} {ts us vs bs tl : List Token} {cause : SourceFault}
  {L n : Nat} {e l : Node}

section Accesses

variable {E : Parser Node}

theorem refuses_access?_member (ho : o.kind = .dot) (ht : t.kind ≠ .identifier) :
    Refuses (access? E e) [o] t (.expected .identifier t.kind) := by
  unfold access?
  apply refuses_step (reads_accept ho)
  exact refuses_first (refuses_expect ht)

theorem refuses_access?_call (ho : o.kind = .lparen)
    (h : Refuses (closedBy .rparen (commaAfter E)) us t cause) :
    Refuses (access? E e) (o :: us) t cause := by
  unfold access?
  apply refuses_peek (reads_accept_other (by simp [ho]))
  apply refuses_step (reads_accept ho)
  exact refuses_first h

theorem refuses_access?_index (ho : o.kind = .lbracket)
    (h : Refuses (E >>= fun i => expect .rbracket >>= fun _ => pure (some (Node.index e i)))
      us t cause) :
    Refuses (access? E e) (o :: us) t cause := by
  unfold access?
  apply refuses_peek (reads_accept_other (by simp [ho]))
  apply refuses_peek (reads_accept_other (by simp [ho]))
  apply refuses_step (reads_accept ho)
  simp only [if_true, discard_bind]
  exact h

/-- The loop over accesses stands after `bs` when it meets what it refuses. -/
theorem refused_spine (hb : Spells .spine e bs (ahead us t.kind))
    (h : ∀ n, 2 * us.length ≤ n → Refuses (access? (expressionWithin n) e) us t cause) :
    Phrase.spine.Refused (bs ++ us) t cause := by
  intro n hn tl
  simp only [List.length_append] at hn
  obtain ⟨r, rl, hr, hk⟩ := exists_head us tl rfl
  obtain ⟨f, hf, hp⟩ := hb.accepted n (by omega) r rl hk
  obtain ⟨g, rfl⟩ : ∃ g, f = g + 1 := ⟨f - 1, by omega⟩
  rw [List.append_assoc, hr, hp, ← hr, accesses]
  exact bind_of_error (h n (by omega) tl)

theorem completable_call (hb : Spells .spine e bs .lparen) (ho : o.kind = .lparen)
    (h : Phrase.arguments.Completable us) : Phrase.spine.Completable (bs ++ o :: us) := by
  obtain ⟨xs, vs, h⟩ := h
  refine ⟨.call e xs, vs, fun j hj => ?_⟩
  have hall := Spells.call hb ho (h j hj)
  simpa using hall

theorem completable_index (hb : Spells .spine e bs .lbracket) (ho : o.kind = .lbracket)
    (h : Phrase.expression.Completable us) : Phrase.spine.Completable (bs ++ o :: us) := by
  obtain ⟨i, vs, h⟩ := h
  refine ⟨.index e i, vs ++ [sample .rbracket], fun j _ => ?_⟩
  have hall : Spells .spine (.index e i) (bs ++ o :: ((us ++ vs) ++ [sample .rbracket])) j :=
    .index hb ho (h .rbracket rfl) rfl
  simpa using hall

theorem completable_member (hb : Spells .spine e bs .dot) (ho : o.kind = .dot) :
    Phrase.spine.Completable (bs ++ [o]) := by
  refine ⟨.member e (sample .identifier).text, [sample .identifier], fun j _ => ?_⟩
  simpa using Spells.member (x := sample .identifier) hb ho rfl

/-- What comes of one access to a base that has been read. -/
theorem decided_access (hE : Phrase.expression.Decided L) (hb : Spells .spine e bs o.kind)
    (ho : o.kind.opensAccess = true) (he : Ended (o :: ts)) (hL : ts.length ≤ L) :
    Verdict { Phrase.spine.standard.after bs with
      whole e' us k := Spells .spine e' (bs ++ us) k ∧ us ≠ [] }
      (o :: ts) := by
  have hkinds : o.kind = .dot ∨ o.kind = .lparen ∨ o.kind = .lbracket := by
    simpa [Kind.opensAccess] using ho
  have hrest : Ended ts := he.tail (by rcases hkinds with h | h | h <;> simp [h])
  rcases hkinds with hk | hk | hk
  · rw [hk] at hb
    obtain ⟨x, xl, rfl⟩ := hrest.exists_cons
    by_cases hx : x.kind = .identifier
    · obtain ⟨u, ul, rfl⟩ := (hrest.tail (by simp [hx])).exists_cons
      exact .reads [o, x] u ul rfl ⟨.member hb hk hx, by simp⟩
    · have hr : Phrase.spine.Refused (bs ++ [o]) x (.expected .identifier x.kind) :=
        refused_spine (by rwa [ahead_cons, hk]) (fun n _ => refuses_access?_member hk hx)
      exact .refuses [o] x xl rfl hr (completable_member hb hk)
  · rw [hk] at hb
    have hc : Phrase.expression.ClosedBy .rparen := closedBy_expression rfl (by decide) rfl
    have hv : Verdict Phrase.arguments.standard ts :=
      decided_items .expression hc hE hrest hL (by simp)
    refine .step (hv.map (fun us u ul xs _ h => ⟨.call e xs, .call hb hk h, by simp⟩)
      (fun us u ul cause _ hr => ?_) (fun us u ul _ hcomp => completable_call hb hk hcomp))
    refine refused_spine (by rwa [ahead_cons, hk]) (fun n hn => ?_)
    rw [List.length_cons] at hn
    exact refuses_access?_call hk ((parses_within (by omega)).refuses_items hr)
  · rw [hk] at hb
    have hv : Verdict (enclosed .rbracket) ts := decided_enclosed hE (by decide) hrest hL
    refine .step (hv.map (fun us u ul i _ h => ?_) (fun us u ul cause _ hr => ?_)
      (fun us u ul _ hcomp => completable_index hb hk hcomp))
    · obtain ⟨vs, q, rfl, hi, hq⟩ := h
      exact ⟨.index e i, .index hb hk hi hq, by simp⟩
    · refine refused_spine (by rwa [ahead_cons, hk]) (fun n hn => ?_)
      rw [List.length_cons] at hn
      exact refuses_access?_index hk (hr n (by omega) _)

/-- A base with all the accesses that follow. -/
def spined : Standard Node :=
  { Phrase.spine.standard with whole a us k := Spells .spine a us k ∧ k.opensAccess = false }

theorem decided_accesses (hE : Phrase.expression.Decided L)
    (hb : Spells .spine e bs (ahead ts .eof)) (he : Ended ts) (hL : ts.length ≤ L + 1) :
    Verdict (spined.after bs) ts := by
  generalize hm : ts.length = m
  induction m using Nat.strongRecOn generalizing ts e bs with
  | ind m ih =>
    obtain ⟨o, tl, rfl⟩ := he.exists_cons
    rw [ahead_cons] at hb
    rw [List.length_cons] at hm hL
    cases ho : o.kind.opensAccess with
    | false => exact .here ⟨hb, ho⟩
    | true =>
      refine (decided_access hE hb ho he (by omega)).bind (fun us u ul e' hts h => ?_)
        (fun us u ul cause _ hr => hr) (fun us u ul _ hcomp => hcomp)
      have hlen := congrArg List.length hts
      have hpos := List.length_pos_iff.mpr h.2
      simp only [List.length_append, List.length_cons] at hlen
      rw [hts] at he
      have hv : Verdict (spined.after (bs ++ us)) (u :: ul) :=
        ih _ (by rw [List.length_cons]; omega) h.1 he.suffix (by rw [List.length_cons]; omega) rfl
      rwa [Standard.after_append] at hv

end Accesses

section Operands

theorem refuses_unaryWithin_sign (ho : o.kind = .not ∨ o.kind = .minus)
    (h : Refuses (unaryWithin n) us t cause) :
    Refuses (unaryWithin (n + 1)) (o :: us) t cause := by
  rw [unaryWithin]
  apply refuses_current
  rw [if_pos (by simpa using ho), discard_bind]
  exact refuses_step reads_advance (refuses_first h)

theorem refuses_unaryWithin_await (ho : o.kind = .awaitWord)
    (h : Refuses (unaryWithin n) us t cause) :
    Refuses (unaryWithin (n + 1)) (o :: us) t cause := by
  rw [unaryWithin]
  apply refuses_current
  rw [if_neg (by simp [ho]), if_pos ho, discard_bind]
  exact refuses_step reads_advance (refuses_first h)

theorem refuses_unaryWithin_base (ho : (ahead us t.kind).isSign = false)
    (h : Refuses (postfixOf (expressionWithin n)) us t cause) :
    Refuses (unaryWithin (n + 1)) us t cause := by
  simp only [Kind.isSign, List.contains_eq_mem, List.mem_cons, List.not_mem_nil, or_false,
    decide_eq_false_iff_not, not_or] at ho
  obtain ⟨hn, hm, ha⟩ := ho
  rw [unaryWithin]
  cases us with
  | nil =>
    rw [ahead_nil] at ha
    apply refuses_look
    rwa [if_neg (by simpa using And.intro hn hm), if_neg ha]
  | cons u us =>
    rw [ahead_cons] at ha
    apply refuses_current
    rwa [if_neg (by simpa using And.intro hn hm), if_neg ha]

theorem refused_unary (ho : (ahead us t.kind).isSign = false)
    (h : Phrase.spine.Refused us t cause) :
    (Phrase.tier 0).Refused us t cause := by
  intro n hn
  obtain ⟨m, rfl⟩ : ∃ m, n = m + 1 := ⟨n - 1, by omega⟩
  exact refuses_unaryWithin_base ho (h m (by omega))

theorem completable_unary (h : Phrase.spine.Completable us) : (Phrase.tier 0).Completable us := by
  obtain ⟨e, vs, h⟩ := h
  refine ⟨e, vs, fun k hk => .accessed (h k hk) ?_⟩
  rw [Kind.continues, Bool.or_eq_false_iff] at hk
  exact hk.1

theorem refused_spined (h : Phrase.primary.Refused us t cause) : Phrase.spine.Refused us t cause :=
  fun n hn => refuses_first (h n hn)

theorem completable_spined (h : Phrase.primary.Completable us) : Phrase.spine.Completable us := by
  obtain ⟨e, vs, h⟩ := h
  exact ⟨e, vs, fun k hk => .base (h k hk)⟩

/-- What comes of an operand without signs in front. -/
theorem decided_spined (hE : Phrase.expression.Decided L) (he : Ended ts) (hL : ts.length ≤ L + 1) :
    Verdict spined ts := by
  refine (decided_primary hE ts he hL).bind (fun us u ul e hts h => ?_)
    (fun us u ul cause _ hr => refused_spined hr) (fun us u ul _ hcomp => completable_spined hcomp)
  rw [hts] at he hL
  rw [List.length_append] at hL
  exact decided_accesses hE (.base h) he.suffix (by omega)

theorem decided_unary (hE : Phrase.expression.Decided L) : (Phrase.tier 0).Decided (L + 1) := by
  intro ts he hL
  induction ts with
  | nil => exact absurd rfl he.ne_nil
  | cons o tl ih =>
    rw [List.length_cons] at hL
    by_cases hs : o.kind = .not ∨ o.kind = .minus
    · have hv := ih (he.tail (by rcases hs with h | h <;> simp [h])) (by omega)
      refine .step
        (hv.map (fun us u ul x _ h => ⟨_, .unary hs h⟩) (fun us u ul cause _ hr n hn => ?_)
          (fun us u ul _ hcomp => ?_))
      · rw [List.length_cons] at hn
        obtain ⟨m, rfl⟩ : ∃ m, n = m + 1 := ⟨n - 1, by omega⟩
        exact refuses_unaryWithin_sign hs (hr m (by omega))
      · obtain ⟨x, vs, hcomp⟩ := hcomp
        exact ⟨.unary o.text x, vs, fun k hk => .unary hs (hcomp k hk)⟩
    by_cases ha : o.kind = .awaitWord
    · have hv := ih (he.tail (by simp [ha])) (by omega)
      refine .step
        (hv.map (fun us u ul x _ h => ⟨_, .await ha h⟩) (fun us u ul cause _ hr n hn => ?_)
          (fun us u ul _ hcomp => ?_))
      · rw [List.length_cons] at hn
        obtain ⟨m, rfl⟩ : ∃ m, n = m + 1 := ⟨n - 1, by omega⟩
        exact refuses_unaryWithin_await ha (hr m (by omega))
      · obtain ⟨x, vs, hcomp⟩ := hcomp
        exact ⟨.await x, vs, fun k hk => .await ha (hcomp k hk)⟩
    · have hsign : o.kind.isSign = false := by
        rw [not_or] at hs
        simp [Kind.isSign, hs.1, hs.2, ha]
      refine (decided_spined hE he (by rwa [List.length_cons])).map
        (fun us u ul e _ h => ⟨e, .accessed h.1 h.2⟩) (fun us u ul cause hts hr => ?_)
        (fun us u ul _ hcomp => completable_unary hcomp)
      have hfirst : ahead us u.kind = o.kind := ahead_eq_of_split hts
      exact refused_unary (by rwa [hfirst]) hr

end Operands

section Levels

variable {m : Nat}

/-- The loop over the operators of a level stands after `bs` when the operand behind `o` is
refused. -/
theorem refused_chain (hb : Spells (.chain m) l bs o.kind) (ho : o.kind ∈ operatorsAt m)
    (h : (Phrase.tier m).Refused us t cause) :
    (Phrase.tier (m + 1)).Refused (bs ++ o :: us) t cause := by
  intro n hn tl
  simp only [List.length_append, List.length_cons] at hn
  obtain ⟨f, hf, hp⟩ := hb.accepted n (by omega) o (us ++ t :: tl) rfl
  obtain ⟨g, rfl⟩ : ∃ g, f = g + 1 := ⟨f - 1, by omega⟩
  have hrefuses :
      Refuses (operators (operatorsAt m) (tierOf (unaryWithin n) m) (g + 1) l)
        (o :: us) t cause := by
    rw [operators]
    apply refuses_current
    rw [if_neg (by simpa using ho), discard_bind]
    exact refuses_step reads_advance (refuses_first (h n (by omega)))
  rw [List.append_assoc, tierOf, List.cons_append, hp]
  exact hrefuses tl

theorem completable_chain (hb : Spells (.chain m) l bs o.kind) (ho : o.kind ∈ operatorsAt m)
    (h : (Phrase.tier m).Completable us) : (Phrase.tier (m + 1)).Completable (bs ++ o :: us) := by
  obtain ⟨r, vs, h⟩ := h
  refine ⟨.binary l o.text r, vs, fun k hk => ?_⟩
  have hall := Spells.level (.binary hb ho (h k hk)) (not_mem_operatorsAt hk m)
  simpa using hall

/-- What comes of the operators of a level after operands that have been read. -/
theorem decided_operators (hd : (Phrase.tier m).Decided L)
    (hb : Spells (.chain m) l bs (ahead ts .eof)) (he : Ended ts) (hL : ts.length ≤ L) :
    Verdict ((Phrase.tier (m + 1)).standard.after bs) ts := by
  generalize hs : ts.length = s
  induction s using Nat.strongRecOn generalizing ts l bs with
  | ind s ih =>
    obtain ⟨o, tl, rfl⟩ := he.exists_cons
    rw [ahead_cons] at hb
    rw [List.length_cons] at hs hL
    by_cases ho : o.kind ∈ operatorsAt m
    · have hne : o.kind ≠ .eof := by
        intro h
        rw [h] at ho
        exact not_mem_operatorsAt rfl m ho
      have hrest := he.tail hne
      refine .step ((hd tl hrest (by omega)).bind (fun us u ul r hts h => ?_)
        (fun us u ul cause _ hr => refused_chain hb ho hr)
          (fun us u ul _ hcomp => completable_chain hb ho hcomp))
      rw [hts] at hrest hs hL
      simp only [List.length_append, List.length_cons] at hs hL
      have hv : Verdict ((Phrase.tier (m + 1)).standard.after (bs ++ o :: us)) (u :: ul) :=
        ih _ (by rw [List.length_cons]; omega) (.binary hb ho h) hrest.suffix
          (by rw [List.length_cons]; omega) rfl
      rwa [Standard.after_append, Standard.after_cons] at hv
    · exact .here (.level hb ho)

theorem decided_tier (hd : (Phrase.tier 0).Decided L) (m : Nat) : (Phrase.tier m).Decided L := by
  induction m with
  | zero => exact hd
  | succ m ih =>
    intro ts he hL
    refine (ih ts he hL).bind (fun us u ul e hts h => ?_)
      (fun us u ul cause _ hr n hn => refuses_first (hr n hn)) (fun us u ul _ hcomp => ?_)
    · rw [hts] at he hL
      rw [List.length_append] at hL
      exact decided_operators ih (.operand h) he.suffix (by omega)
    · obtain ⟨e, vs, hcomp⟩ := hcomp
      exact ⟨e, vs, fun k hk => .level (.operand (hcomp k hk)) (not_mem_operatorsAt hk m)⟩

end Levels

section Choices

variable {E U : Parser Node} {d v : Node} {ws : List Token}

theorem refuses_ternaryOf (h : Refuses (tierOf U topTier) us t cause) :
    Refuses (ternaryOf E U) us t cause := by
  unfold ternaryOf
  rw [disjunctionOf_eq_tierOf]
  exact refuses_first h

theorem refuses_ternaryOf_first (hd : Reads (tierOf U topTier) us .question d)
    (hq : q.kind = .question)
    (h : Refuses (E >>= fun a => expect .colon >>= fun _ => E >>= fun b =>
      pure (Node.conditional d [a] (some [b]))) vs t cause) :
    Refuses (ternaryOf E U) (us ++ q :: vs) t cause := by
  unfold ternaryOf
  rw [disjunctionOf_eq_tierOf]
  apply refuses_bind (by rwa [ahead_cons, hq])
  apply refuses_step (reads_accept hq)
  simp only [if_true, discard_bind]
  exact h

theorem completable_choice (hd : Spells (.tier topTier) d us .question) (hq : q.kind = .question)
    (h : Phrase.expression.Completable vs) : Phrase.ternary.Completable (us ++ q :: vs) := by
  obtain ⟨a, ws, h⟩ := h
  refine ⟨.conditional d [a] (some [.number .null]),
    ws ++ [sample .colon, sample .number], fun j hj => ?_⟩
  have hall : Spells .ternary (.conditional d [a] (some [.number .null]))
      (us ++ q :: ((vs ++ ws) ++ sample .colon :: [sample .number])) j :=
    .choice hd hq (h .colon rfl) rfl (spells_sample hj)
  simpa using hall

theorem completable_choiceLater (hd : Spells (.tier topTier) d us .question)
    (hq : q.kind = .question) (hv : Spells .expression v vs .colon) (ho : o.kind = .colon)
    (h : Phrase.expression.Completable ws) :
    Phrase.ternary.Completable (us ++ q :: (vs ++ o :: ws)) := by
  obtain ⟨b, xs, h⟩ := h
  refine ⟨.conditional d [v] (some [b]), xs, fun j hj => ?_⟩
  have hall :
      Spells .ternary (.conditional d [v] (some [b])) (us ++ q :: (vs ++ o :: (ws ++ xs))) j :=
    .choice hd hq hv ho (h j hj)
  simpa using hall

/-- What comes of the second branch of a choice. -/
theorem decided_otherBranch (hE : Phrase.expression.Decided L)
    (hd : Spells (.tier topTier) d us .question) (hq : q.kind = .question)
    (hv : Spells .expression v vs .colon) (ho : o.kind = .colon)
    (he : Ended ts) (hL : ts.length ≤ L) :
    Verdict ((((Phrase.ternary.standard.after us).next q).after vs).next o) ts := by
  refine (hE ts he hL).map (fun ws w wl b _ hb => ⟨_, .choice hd hq hv ho hb⟩)
    (fun ws w wl cause _ hr n hn => ?_)
    (fun ws w wl _ hcomp => completable_choiceLater hd hq hv ho hcomp)
  simp only [List.length_append, List.length_cons] at hn
  have hsecond : Refuses (expressionWithin n >>= fun a => expect .colon >>= fun _ =>
      expressionWithin n >>= fun b => pure (Node.conditional d [a] (some [b])))
        (vs ++ o :: ws) w cause :=
    refuses_bind (by rw [ahead_cons, ho]; exact hv.accepted n (by omega))
      (refuses_step (reads_expect ho) (refuses_first (hr n (by omega))))
  exact refuses_ternaryOf_first (hd.accepted n (by omega)) hq hsecond

/-- What comes of the two branches of a choice. -/
theorem decided_branches (hE : Phrase.expression.Decided L)
    (hd : Spells (.tier topTier) d us .question) (hq : q.kind = .question)
    (he : Ended ts) (hL : ts.length ≤ L) :
    Verdict ((Phrase.ternary.standard.after us).next q) ts := by
  refine (hE ts he hL).bind (fun vs u ul v hts h => ?_) (fun vs u ul cause _ hr n hn => ?_)
    (fun vs u ul _ hcomp => completable_choice hd hq hcomp)
  · rw [hts] at he hL
    simp only [List.length_append, List.length_cons] at hL
    by_cases hk : u.kind = .colon
    · replace h : Spells .expression v vs .colon := hk ▸ h
      exact .step (decided_otherBranch hE hd hq h hk (he.suffix.tail (by simp [hk])) (by omega))
    · have hrefused :
          ((Phrase.ternary.standard.after us).next q).refused vs u (.expected .colon u.kind) := by
        intro n hn
        simp only [List.length_append, List.length_cons] at hn
        exact refuses_ternaryOf_first (hd.accepted n (by omega)) hq
          (refuses_unclosed (h.accepted n (by omega)) hk)
      exact .stop hrefused (completable_choice hd hq h.completable)
  · simp only [List.length_append, List.length_cons] at hn
    exact refuses_ternaryOf_first (hd.accepted n (by omega)) hq (refuses_first (hr n (by omega)))

theorem decided_ternary (hE : Phrase.expression.Decided L) : Phrase.ternary.Decided (L + 1) := by
  intro ts he hL
  refine (decided_tier (decided_unary hE) topTier ts he hL).bind (fun us u ul d hts h => ?_)
    (fun us u ul cause _ hr n hn => refuses_ternaryOf (hr n hn)) (fun us u ul _ hcomp => ?_)
  · rw [hts] at he hL
    simp only [List.length_append, List.length_cons] at hL
    by_cases hk : u.kind = .question
    · replace h : Spells (.tier topTier) d us .question := hk ▸ h
      exact .step (decided_branches hE h hk (he.suffix.tail (by simp [hk])) (by omega))
    · exact .here (.operation h hk)
  · obtain ⟨e, vs, hcomp⟩ := hcomp
    refine ⟨e, vs, fun k hk => .operation (hcomp k hk) ?_⟩
    rintro rfl
    cases hk

theorem refuses_assignmentOf (h : Refuses (ternaryOf E U) us t cause) :
    Refuses (assignmentOf E U) us t cause :=
  refuses_first h

theorem refuses_assignmentOf_value {name : String}
    (hd : Reads (ternaryOf E U) us .assign (.identifier name)) (hq : q.kind = .assign)
    (h : Refuses E vs t cause) : Refuses (assignmentOf E U) (us ++ q :: vs) t cause := by
  unfold assignmentOf
  apply refuses_bind (by rwa [ahead_cons, hq])
  apply refuses_currentKind
  rw [ahead_cons, if_neg (by simp [hq])]
  simp only [discard_bind]
  exact refuses_step reads_advance (refuses_first h)

theorem refuses_assignmentOf_target
    (hd : Reads (ternaryOf E U) us .assign d) (ht : t.kind = .assign)
    (hne : ∀ name, d ≠ .identifier name) : Refuses (assignmentOf E U) us t .invalidTarget := by
  unfold assignmentOf
  apply refuses_finish (by rwa [ht])
  apply refuses_currentKind
  rw [ahead_nil, if_neg (by simp [ht])]
  cases d with
  | identifier name => exact absurd rfl (hne name)
  | _ => exact refuses_reject

/-- What comes of the value that is assigned to a name. -/
theorem decided_assigned (hE : Phrase.expression.Decided L) {name : String}
    (hd : Spells .ternary (.identifier name) us .assign) (hq : q.kind = .assign)
    (he : Ended ts) (hL : ts.length ≤ L) :
    Verdict ((Phrase.expression.standard.after us).next q) ts := by
  refine (hE ts he hL).map (fun vs w wl v _ h => ⟨_, .assignment hd hq h⟩)
    (fun vs w wl cause _ hr n hn => ?_) (fun vs w wl _ hcomp => ?_)
  · simp only [List.length_append, List.length_cons] at hn
    obtain ⟨m, rfl⟩ : ∃ m, n = m + 1 := ⟨n - 1, by omega⟩
    rw [expressionWithin]
    exact refuses_assignmentOf_value (hd.accepted m (by omega)) hq (hr m (by omega))
  · obtain ⟨v, xs, hcomp⟩ := hcomp
    refine ⟨.assignment name v, xs, fun j hj => ?_⟩
    have hall := Spells.assignment hd hq (hcomp j hj)
    simpa using hall

theorem completable_target (h : Phrase.ternary.Completable us) :
    Phrase.expression.Completable us := by
  obtain ⟨e, vs, h⟩ := h
  refine ⟨e, vs, fun k hk => .value (h k hk) ?_⟩
  rintro rfl
  cases hk

theorem decided_assignment (hE : Phrase.expression.Decided L) :
    Phrase.expression.Decided (L + 1) := by
  intro ts he hL
  refine (decided_ternary hE ts he hL).bind (fun us u ul d hts h => ?_)
    (fun us u ul cause _ hr n hn => ?_) (fun us u ul _ hcomp => completable_target hcomp)
  · rw [hts] at he hL
    simp only [List.length_append, List.length_cons] at hL
    by_cases hk : u.kind = .assign
    · replace h : Spells .ternary d us .assign := hk ▸ h
      by_cases hd : ∃ name, d = .identifier name
      · obtain ⟨name, rfl⟩ := hd
        exact .step (decided_assigned hE h hk (he.suffix.tail (by simp [hk])) (by omega))
      · have hrefused : Phrase.expression.Refused us u .invalidTarget := by
          intro n hn
          obtain ⟨m, rfl⟩ : ∃ m, n = m + 1 := ⟨n - 1, by omega⟩
          rw [expressionWithin]
          exact refuses_assignmentOf_target (h.accepted m (by omega)) hk (by simpa using hd)
        exact .stop hrefused (completable_target h.completable)
    · exact .here (.value h hk)
  · obtain ⟨m, rfl⟩ : ∃ m, n = m + 1 := ⟨n - 1, by omega⟩
    rw [expressionWithin]
    exact refuses_assignmentOf (hr m (by omega))

theorem decided_expression (L : Nat) : Phrase.expression.Decided L := by
  induction L with
  | zero =>
    intro ts he hL
    exact absurd (List.eq_nil_of_length_eq_zero (by omega)) he.ne_nil
  | succ L ih => exact decided_assignment ih

theorem refuses_expression (h : Phrase.expression.Refused us t cause) :
    Refuses expression us t cause := by
  intro tl
  have hd : 2 * us.length + 2 ≤ depthFor (us ++ t :: tl) := by
    simp only [depthFor, List.length_append]
    omega
  exact h _ hd tl

theorem parses_expression (m : Nat) : Phrase.expression.Parses expression m :=
  ⟨fun _ _ _ _ h => h.reads, fun _ _ _ _ h => refuses_expression h⟩

end Choices

end FloScript.Parser
