import FloScript.Proofs.Refusal

/-! What comes of the tokens where a primary expression should stand: names and values, parentheses,
lists, dictionaries and functions. -/
namespace FloScript.Parser

variable {close k : Kind} {t o q : Token} {ts us vs tl : List Token}
  {cause : SourceFault} {L n : Nat} {e : Node} {s : Shape} {item : Phrase s}

theorem closedBy_name : Phrase.name.ClosedBy .rparen :=
  ⟨rfl, by decide, by rintro k rfl; decide⟩

theorem closedBy_expression (hc : close.continues = false)
    (hi : close ≠ .eof ∧ close ≠ .newline ∧ close ≠ .comma) (ho : close.opensExpression = false) :
    Phrase.expression.ClosedBy close := by
  refine ⟨hc, hi, ?_⟩
  intro k (hk : k.opensExpression = true)
  constructor
  · rintro rfl
    rw [hk] at ho
    cases ho
  · rintro rfl
    cases hk

theorem closedBy_pair : Phrase.pair.ClosedBy .rbrace := by
  have h : Phrase.expression.ClosedBy .rbrace := closedBy_expression rfl (by decide) rfl
  exact ⟨h.stops, h.inside, h.opens⟩

theorem decided_parameters (he : Ended ts) :
    Verdict ⟨Spells .parameters, Refuses parameters, Phrase.parameters.Completable⟩ ts := by
  have h : Verdict Phrase.parameters.standard ts :=
    decided_items .name closedBy_name (decided_name _) he (Nat.le_refl _) (by simp)
  exact h.map (fun us t tl ps _ h => ⟨ps, h⟩)
    (fun us t tl cause _ hr => (parses_name _).refuses_items hr) (fun us t tl _ hcomp => hcomp)

/-- An expression and the token that closes it. -/
def enclosed (close : Kind) : Standard Node where
  whole e us _ := ∃ vs q, us = vs ++ [q] ∧ Spells .expression e vs close ∧ q.kind = close
  refused us t cause := ∀ n, 2 * us.length + 2 ≤ n → ∀ {β : Type} (g : Node → β),
    Refuses (expressionWithin n >>= fun e => expect close >>= fun _ => pure (g e)) us t cause
  begun := Phrase.expression.Completable

theorem decided_enclosed (hE : Phrase.expression.Decided L) (hne : close ≠ .eof) (he : Ended ts)
    (hL : ts.length ≤ L) : Verdict (enclosed close) ts := by
  refine (hE ts he hL).bind (fun us t tl e hts h => ?_)
    (fun us t tl cause _ hr n hn _ _ => refuses_first (hr n hn)) (fun us t tl _ hcomp => hcomp)
  by_cases hk : t.kind = close
  · rw [hts] at he
    obtain ⟨u, ul, rfl⟩ := (he.suffix.tail (by rwa [hk])).exists_cons
    exact .reads [t] u ul rfl ⟨us, t, rfl, hk ▸ h, hk⟩
  · have hr : (enclosed close).refused us t (.expected close t.kind) :=
      fun n hn _ _ => refuses_unclosed (h.accepted n (by omega)) hk
    exact .stop hr h.completable

section Parenthesized

variable {E : Parser Node} {ps : List String}

theorem refuses_primaryOf_parenthesis (ho : o.kind = .lparen)
    (h : Refuses (parenthesized E) us t cause) :
    Refuses (primaryOf E) (o :: us) t cause := by
  unfold primaryOf
  apply refuses_current
  simp only [ho, discard_bind]
  exact refuses_step reads_advance h

theorem refuses_parenthesized (hi : ahead us t.kind ≠ .identifier) (hr : ahead us t.kind ≠ .rparen)
    (h : Refuses (E >>= fun e => expect .rparen >>= fun _ => pure e) us t cause) :
    Refuses (parenthesized E) us t cause := by
  unfold parenthesized
  apply refuses_currentKind
  simp only [hi, hr, decide_false, Bool.or_self, Bool.false_eq_true, if_false, discard_bind]
  exact h

theorem refuses_parenthesized_parameters
    (hk : ahead us t.kind = .identifier ∨ ahead us t.kind = .rparen)
    (h : Refuses parameters us t cause) : Refuses (parenthesized E) us t cause := by
  unfold parenthesized
  apply refuses_currentKind
  rw [if_pos (by simpa using hk)]
  exact refuses_first h

theorem refuses_parenthesized_lambda (hp : Spells .parameters ps us .arrow) (ho : o.kind = .arrow)
    (h : Refuses E vs t cause) : Refuses (parenthesized E) (us ++ o :: vs) t cause := by
  unfold parenthesized
  apply refuses_currentKind
  rw [if_pos (by simpa [ho] using opens_parameters hp)]
  have hread : Reads parameters us .arrow ps :=
    reads_closedBy (hp.accepted (2 * us.length + 1) (by omega))
  apply refuses_bind (by rwa [ahead_cons, ho])
  exact refuses_step (reads_accept ho) (refuses_first h)

theorem refuses_parenthesized_skipped (hp : Spells .parameters ps us (ahead vs t.kind))
    (ha : ahead vs t.kind ≠ .arrow)
    (h : Refuses (E >>= fun e => expect .rparen >>= fun _ => pure e) vs t cause) :
    Refuses (parenthesized E) (us ++ vs) t cause := by
  unfold parenthesized
  apply refuses_currentKind
  rw [if_pos (by simpa using opens_parameters hp)]
  have hread : Reads parameters us (ahead vs t.kind) ps :=
    reads_closedBy (hp.accepted (2 * us.length + 1) (by omega))
  apply refuses_bind hread
  apply refuses_peek (reads_accept_other ha)
  simp only [Bool.false_eq_true, if_false, discard_bind]
  exact h

theorem completable_parenthesized (ho : o.kind = .lparen) (hi : ahead us k ≠ .identifier)
    (h : Phrase.expression.Completable us) : Phrase.primary.Completable (o :: us) := by
  cases us with
  | nil =>
    have hone : Spells .expression (.number .null) [sample .number] .rparen := spells_sample rfl
    exact ⟨_, [sample .number, sample .rparen], fun _ _ => .parenthesized ho hone (by decide) rfl⟩
  | cons u us =>
    obtain ⟨e, vs, h⟩ := h
    refine ⟨e, vs ++ [sample .rparen], fun j _ => ?_⟩
    have he : Spells .primary e (o :: ((u :: us ++ vs) ++ [sample .rparen])) j :=
      .parenthesized ho (h .rparen rfl) hi rfl
    simpa using he

theorem completable_lambda (ho : o.kind = .lparen) (h : Phrase.parameters.Completable us) :
    Phrase.primary.Completable (o :: us) := by
  obtain ⟨ps, vs, h⟩ := h
  refine ⟨lambda ps (.number .null), vs ++ [sample .arrow, sample .number], fun j hj => ?_⟩
  have he :
      Spells .primary (lambda ps (.number .null))
        (o :: ((us ++ vs) ++ sample .arrow :: [sample .number])) j :=
    .lambda ho (h .arrow rfl) rfl (spells_sample hj)
  simpa using he

theorem completable_lambdaBody (ho : o.kind = .lparen) (hp : Spells .parameters ps us .arrow)
    (hq : q.kind = .arrow) (h : Phrase.expression.Completable vs) :
    Phrase.primary.Completable (o :: (us ++ q :: vs)) := by
  obtain ⟨e, ws, h⟩ := h
  refine ⟨lambda ps e, ws, fun j hj => ?_⟩
  have he : Spells .primary (lambda ps e) (o :: (us ++ q :: (vs ++ ws))) j :=
    .lambda ho hp hq (h j hj)
  simpa using he

theorem completable_skipped (ho : o.kind = .lparen) (hp : Spells .parameters ps us (ahead vs k))
    (ha : ahead vs k ≠ .arrow) (h : Phrase.expression.Completable vs) :
    Phrase.primary.Completable (o :: (us ++ vs)) := by
  cases vs with
  | nil =>
    rw [List.append_nil]
    exact completable_lambda ho hp.completable
  | cons v vs =>
    obtain ⟨e, ws, h⟩ := h
    refine ⟨e, ws ++ [sample .rparen], fun j _ => ?_⟩
    have he : Spells .primary e (o :: (us ++ ((v :: vs ++ ws) ++ [sample .rparen]))) j :=
      .skipped ho hp ha (h .rparen rfl) rfl
    simpa using he

/-- What comes of the tokens after an opening parenthesis. -/
theorem decided_parenthesized (hE : Phrase.expression.Decided L)
    (ho : o.kind = .lparen) (he : Ended ts) (hL : ts.length ≤ L) :
    Verdict (Phrase.primary.standard.next o) ts := by
  by_cases hk : ahead ts .eof = .identifier ∨ ahead ts .eof = .rparen
  · refine (decided_parameters he).bind (fun us t tl ps hts hp => ?_)
      (fun us u ul cause hts hr n _ => ?_) (fun us u ul _ hcomp => completable_lambda ho hcomp)
    · rw [hts] at he hL
      simp only [List.length_append, List.length_cons] at hL
      have hrest := he.suffix
      by_cases ha : t.kind = .arrow
      · rw [ha] at hp
        refine .step ((hE tl (hrest.tail (by simp [ha])) (by omega)).map
          (fun vs u ul e _ h => ⟨lambda ps e, .lambda ho hp ha h⟩)
          (fun vs u ul cause _ hr n hn => ?_)
          (fun vs u ul _ hcomp => completable_lambdaBody ho hp ha hcomp))
        simp only [List.length_append, List.length_cons] at hn
        exact refuses_primaryOf_parenthesis ho
          (refuses_parenthesized_lambda hp ha (hr n (by omega)))
      · have hv : Verdict (enclosed .rparen) (t :: tl) :=
          decided_enclosed hE (by decide) hrest (by rw [List.length_cons]; omega)
        refine hv.map (fun vs u ul e hvs h => ⟨e, ?_⟩) (fun vs u ul cause hvs hr n hn => ?_)
          (fun vs u ul hvs hcomp => ?_)
        · obtain ⟨ws, q, rfl, hw, hq⟩ := h
          have hnext : ahead ws .rparen = t.kind := by
            rw [← hq]
            simpa using ahead_eq_of_split hvs
          rw [← hnext] at hp ha
          exact .skipped ho hp ha hw hq
        · have hnext : ahead vs u.kind = t.kind := ahead_eq_of_split hvs
          rw [← hnext] at hp ha
          simp only [List.length_append, List.length_cons] at hn
          have hrefused : Refuses (parenthesized (expressionWithin n)) (us ++ vs) u cause :=
            refuses_parenthesized_skipped hp ha (hr n (by omega) id)
          exact refuses_primaryOf_parenthesis ho hrefused
        · have hnext : ahead vs u.kind = t.kind := ahead_eq_of_split hvs
          rw [← hnext] at hp ha
          have hall : Phrase.primary.Completable (o :: (us ++ vs)) :=
            completable_skipped ho hp ha hcomp
          exact hall
    · rw [← ahead_eq_of_split hts] at hk
      exact refuses_primaryOf_parenthesis ho (refuses_parenthesized_parameters hk hr)
  · rw [not_or] at hk
    have hv : Verdict (enclosed .rparen) ts := decided_enclosed hE (by decide) he hL
    refine hv.map (fun us u ul e hts h => ⟨e, ?_⟩) (fun us u ul cause hts hr n hn => ?_)
      (fun us u ul hts hcomp => ?_)
    · obtain ⟨ws, q, rfl, hw, hq⟩ := h
      have hnext : ahead ws .rparen = ahead ts .eof := by
        rw [hts, ← hq]
        simp
      exact .parenthesized ho hw (by rw [hnext]; exact hk.1) hq
    · rw [← ahead_eq_of_split hts] at hk
      rw [List.length_cons] at hn
      exact refuses_primaryOf_parenthesis ho (refuses_parenthesized hk.1 hk.2 (hr n (by omega) id))
    · rw [← ahead_eq_of_split hts] at hk
      exact completable_parenthesized ho hk.1 hcomp

end Parenthesized

section Pairs

variable {E : Parser Node} {key : Node}

/-- The key of a pair: a name, or an expression that does not begin with one. -/
inductive Keys : Node → List Token → Kind → Prop where
  | name {x : Token} {k : Kind} : x.kind = .identifier → Keys (.string (.text x.text)) [x] k
  | value {e : Node} {us : List Token} {k : Kind} :
      Spells .expression e us k → ahead us k ≠ .identifier → Keys e us k

theorem Keys.pair (h : Keys key us .colon) (hq : q.kind = .colon) (he : Spells .expression e vs k) :
    Spells .pair (key, e) (us ++ q :: vs) k := by
  cases h with
  | name hx => exact .named hx hq he
  | value h hne => exact .keyed h hne hq he

theorem Keys.reads (h : Keys key us k) (hn : 2 * us.length < n) :
    Reads (dictKey (expressionWithin n)) us k key := by
  cases h with
  | name hx => exact reads_dictKey_name hx
  | value h hne =>
    cases us with
    | nil => exact absurd rfl h.ne_nil
    | cons u us => exact reads_dictKey_other hne (h.accepted n hn)

theorem Keys.completable (h : Keys key us k) : Phrase.pair.Completable us := by
  have hcolon : Keys key us .colon := by
    cases h with
    | name hx => exact .name hx
    | value h hne => exact .value (h.before rfl) (by rwa [ahead_of_ne_nil h.ne_nil _ k])
  exact ⟨(key, .number .null), [sample .colon, sample .number],
    fun _ hj => hcolon.pair rfl (spells_sample hj)⟩

theorem completable_key (h : Phrase.expression.Completable us) (hi : ahead us k ≠ .identifier) :
    Phrase.pair.Completable us := by
  cases us with
  | nil =>
    have hone : Spells .expression (.number .null) [sample .number] .colon := spells_sample rfl
    have hkey : Keys (.number .null) [sample .number] .colon := .value hone (by decide)
    exact ⟨_, [sample .number, sample .colon, sample .number],
      fun _ hj => hkey.pair rfl (spells_sample hj)⟩
  | cons u us =>
    obtain ⟨e, vs, h⟩ := h
    have hkey : Keys e (u :: us ++ vs) .colon := .value (h .colon rfl) hi
    refine ⟨(e, .number .null), vs ++ [sample .colon, sample .number], fun j hj => ?_⟩
    have he := hkey.pair (q := sample .colon) rfl (spells_sample hj)
    simpa using he

theorem completable_pair (h : Keys key us .colon) (hq : q.kind = .colon)
    (he : Phrase.expression.Completable vs) :
    Phrase.pair.Completable (us ++ q :: vs) := by
  obtain ⟨e, ws, he⟩ := he
  refine ⟨(key, e), ws, fun j hj => ?_⟩
  have hall := h.pair hq (he j hj)
  simpa using hall

theorem refuses_dictKey (hi : ahead us t.kind ≠ .identifier) (h : Refuses E us t cause) :
    Refuses (dictKey E) us t cause := by
  unfold dictKey
  cases us with
  | nil =>
    rw [ahead_nil] at hi
    apply refuses_look
    rwa [if_neg hi]
  | cons u us =>
    rw [ahead_cons] at hi
    apply refuses_current
    rwa [if_neg hi]

theorem refuses_dictPair_value (hk : Reads (dictKey E) us .colon key) (hq : q.kind = .colon)
    (h : Refuses E vs t cause) : Refuses (dictPair E) (us ++ q :: vs) t cause := by
  unfold dictPair
  simp only [discard_bind]
  apply refuses_bind (by rwa [ahead_cons, hq])
  exact refuses_step (reads_expect hq) (refuses_first h)

theorem refuses_dictPair_colon (hk : Reads (dictKey E) us t.kind key) (hne : t.kind ≠ .colon) :
    Refuses (dictPair E) us t (.expected .colon t.kind) := by
  unfold dictPair
  simp only [discard_bind]
  exact refuses_unclosed hk hne

/-- The key of a pair, and how it is refused. -/
def keyed : Standard Node where
  whole := Keys
  refused us t cause :=
    ∀ n, 2 * us.length + 2 ≤ n → Refuses (dictKey (expressionWithin n)) us t cause
  begun := Phrase.pair.Completable

theorem decided_key (hE : Phrase.expression.Decided L) (he : Ended ts) (hL : ts.length ≤ L) :
    Verdict keyed ts := by
  by_cases hk : ahead ts .eof = .identifier
  · obtain ⟨t, tl, rfl⟩ := he.exists_cons
    rw [ahead_cons] at hk
    obtain ⟨u, ul, rfl⟩ := (he.tail (by simp [hk])).exists_cons
    exact .reads [t] u ul rfl (.name hk)
  · refine (hE ts he hL).map (fun us u ul e hts h => ⟨e, .value h ?_⟩)
      (fun us u ul cause hts hr n hn => ?_) (fun us u ul hts hcomp => ?_)
    all_goals rw [← ahead_eq_of_split hts] at hk
    · exact hk
    · exact refuses_dictKey hk (hr n hn)
    · exact completable_key hcomp hk

theorem decided_pair (hE : Phrase.expression.Decided L) : Phrase.pair.Decided L := by
  intro ts he hL
  refine (decided_key hE he hL).bind (fun us t tl key hts hkey => ?_)
    (fun us u ul cause _ hr n hn => refuses_first (hr n hn)) (fun us u ul _ hcomp => hcomp)
  by_cases hk : t.kind = .colon
  · rw [hts] at he hL
    simp only [List.length_append, List.length_cons] at hL
    replace hkey : Keys key us .colon := hk ▸ hkey
    refine .step ((hE tl (he.suffix.tail (by simp [hk])) (by omega)).map
      (fun vs u ul e _ h => ⟨(key, e), hkey.pair hk h⟩) (fun vs u ul cause _ hr n hn => ?_)
      (fun vs u ul _ hcomp => completable_pair hkey hk hcomp))
    simp only [List.length_append, List.length_cons] at hn
    exact refuses_dictPair_value (hkey.reads (by omega)) hk (hr n (by omega))
  · have hr : Phrase.pair.Refused us t (.expected .colon t.kind) :=
      fun n hn => refuses_dictPair_colon (hkey.reads (by omega)) hk
    exact .stop hr hkey.completable

end Pairs

section Brackets

variable {E : Parser Node}

theorem refuses_primaryOf_list (ho : o.kind = .lbracket)
    (h : Refuses (bracketItems .rbracket E) us t cause) :
    Refuses (primaryOf E) (o :: us) t cause := by
  unfold primaryOf
  apply refuses_current
  simp only [ho, discard_bind]
  exact refuses_step reads_advance (refuses_first h)

theorem refuses_primaryOf_dict (ho : o.kind = .lbrace)
    (h : Refuses (bracketItems .rbrace (dictPair E)) us t cause) :
    Refuses (primaryOf E) (o :: us) t cause := by
  unfold primaryOf
  apply refuses_current
  simp only [ho, discard_bind]
  exact refuses_step reads_advance (refuses_first h)

/-- Items in brackets: newlines, and then a list of them. -/
structure Bracketed (c : Phrase s) (xs : List s.Carrier) (close : Kind)
    (us : List Token) (k : Kind) : Prop where
  split : ∃ ns vs, us = ns ++ vs ∧ (∀ n ∈ ns, n.kind = .newline) ∧ ahead vs k ≠ .newline ∧
    Spells (.items close true c) xs vs k

theorem Bracketed.list {xs : List Node} (h : Bracketed .expression xs .rbracket us k)
    (ho : o.kind = .lbracket) :
    Spells .primary (.list xs) (o :: us) k := by
  obtain ⟨ns, vs, rfl, hn, ha, h⟩ := h.split
  exact .list ho hn ha h

theorem Bracketed.dict {xs : List (Node × Node)} (h : Bracketed .pair xs .rbrace us k)
    (ho : o.kind = .lbrace) :
    Spells .primary (.dict xs) (o :: us) k := by
  obtain ⟨ns, vs, rfl, hn, ha, h⟩ := h.split
  exact .dict ho hn ha h

/-- Items in brackets, and how one of them is refused. -/
def bracketed (c : Phrase s) (close : Kind) : Standard (List s.Carrier) where
  whole xs := Bracketed c xs close
  refused us t cause := ∀ p, c.Parses p us.length → Refuses (bracketItems close p) us t cause
  begun := Begins fun xs => Bracketed c xs close

theorem decided_bracketItems (hi : item.Listed) (hc : item.ClosedBy close)
    (hd : item.Decided L) (he : Ended ts) (hL : ts.length ≤ L) :
    Verdict (bracketed item close) ts := by
  obtain ⟨ns, hsplit, hn, ha, hrest⟩ := dropNewlines_spec he
  have hlen := congrArg List.length hsplit
  rw [List.length_append] at hlen
  -- no list of items begins with a newline
  have hline : ∀ {xs us k}, Spells (.items close true item) xs us k → ahead us k ≠ .newline := by
    intro xs us k h
    rcases h.opens with hk | hk
    · rw [hk]
      exact hc.inside.2.1
    · exact (hc.opens _ hk).2
  have hv : Verdict (Phrase.items close true item).standard (dropNewlines ts) :=
    decided_items hi hc hd hrest (by omega) (fun _ => ha)
  rw [hsplit]
  refine Verdict.shift (hv.map (fun us t tl xs _ h => ⟨xs, ns, us, rfl, hn, hline h, h⟩)
    (fun us t tl cause hus hr p hp => ?_) (fun us t tl _ hcomp => ?_))
  · rw [← ahead_eq_of_split hus] at ha
    have hp' : item.Parses p us.length := hp.mono (by simp)
    rw [bracketItems_eq]
    exact refuses_bind (reads_skipNewlines hn ha) (hp'.refuses_items hr)
  · obtain ⟨xs, vs, hcomp⟩ := hcomp
    exact ⟨xs, vs, fun k hk => ⟨ns, us ++ vs, by simp, hn, hline (hcomp k hk), hcomp k hk⟩⟩

end Brackets

theorem refuses_primaryOf_thunk {E : Parser Node} (ho : o.kind = .arrow)
    (h : Refuses E us t cause) :
    Refuses (primaryOf E) (o :: us) t cause := by
  unfold primaryOf
  apply refuses_current
  simp only [ho, discard_bind]
  exact refuses_step reads_advance (refuses_first h)

theorem decided_primary (hE : Phrase.expression.Decided L) : Phrase.primary.Decided (L + 1) := by
  intro ts he hL
  obtain ⟨t, tl, rfl⟩ := he.exists_cons
  have hlen : tl.length ≤ L := by simpa using hL
  have hdepth : ∀ {us : List Token} {n}, 2 * (t :: us).length ≤ n → 2 * us.length + 2 ≤ n := by
    intro us n hn
    rw [List.length_cons] at hn
    omega
  cases hk : t.kind with
  | number | string | trueWord | falseWord | nullWord | identifier =>
    obtain ⟨u, ul, rfl⟩ := (he.tail (by simp [hk])).exists_cons
    exact .reads [t] u ul rfl (.leaf (by simp [leaf?, hk]; rfl))
  | lparen => exact .step (decided_parenthesized hE hk (he.tail (by simp [hk])) hlen)
  | lbracket =>
    have hc : Phrase.expression.ClosedBy .rbracket := closedBy_expression rfl (by decide) rfl
    refine .step ((decided_bracketItems .expression hc hE (he.tail (by simp [hk])) hlen).map
      (fun us u ul xs _ h => ⟨.list xs, h.list hk⟩)
      (fun us u ul cause _ hr n hn => refuses_primaryOf_list hk (hr _ (parses_within (hdepth hn))))
        (fun us u ul _ hcomp => ?_))
    obtain ⟨xs, vs, hcomp⟩ := hcomp
    exact ⟨.list xs, vs, fun k hj => (hcomp k hj).list hk⟩
  | lbrace =>
    refine .step
      ((decided_bracketItems .pair closedBy_pair (decided_pair hE)
        (he.tail (by simp [hk])) hlen).map
      (fun us u ul xs _ h => ⟨.dict xs, h.dict hk⟩)
      (fun us u ul cause _ hr n hn => refuses_primaryOf_dict hk
        (hr _ (parses_dictPair (hdepth hn)))) (fun us u ul _ hcomp => ?_))
    obtain ⟨xs, vs, hcomp⟩ := hcomp
    exact ⟨.dict xs, vs, fun k hj => (hcomp k hj).dict hk⟩
  | arrow =>
    refine .step
      ((hE tl (he.tail (by simp [hk])) hlen).map (fun us u ul e _ h => ⟨lambda [] e, .thunk hk h⟩)
        (fun us u ul cause _ hr n hn => refuses_primaryOf_thunk hk (hr n (hdepth hn)))
        (fun us u ul _ hcomp => ?_))
    obtain ⟨e, vs, hcomp⟩ := hcomp
    exact ⟨lambda [] e, vs, fun k hj => .thunk hk (hcomp k hj)⟩
  | _ =>
    have hrefused : Phrase.primary.Refused [] t (.unexpectedToken t.kind) := by
      intro n _
      unfold primaryOf
      apply refuses_look
      simp only [hk]
      exact refuses_reject
    exact .refuses [] t tl rfl hrefused ⟨.number .null, [sample .number], fun _ _ => .leaf rfl⟩

end FloScript.Parser
