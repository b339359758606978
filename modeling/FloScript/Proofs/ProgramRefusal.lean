import FloScript.Proofs.FormRefusal

/-! What comes of any tokens where a function, a statement or a whole program should stand. -/
namespace FloScript.Parser

variable {k : Kind} {t o q : Token} {ts us vs ns : List Token} {cause : SourceFault} {L n : Nat}
  {S : Parser Node}

section Functions

variable {name : Option String} {ps : List String} {xs : List Token}

/-- The body of a function, behind its parameters. -/
def bodyOf (S : Parser Node) (name : Option String) (ps : List String) : Parser Node := do
  if ← accept .arrow then
    let e ← expression
    return Node.function name ps [.returning (some e)] false
  else return Node.function name ps (← blockOf S) false

theorem refuses_functionOf (ho : o.kind = .funcWord) (hx : NamePart name xs (ahead us t.kind))
    (h : Refuses (optionalItems (do return (← expect .identifier).text) >>= bodyOf S name)
      us t cause) :
    Refuses (functionOf S) (o :: (xs ++ us)) t cause := by
  rw [functionOf_eq]
  apply refuses_peek (reads_accept_other (by simp [ho]))
  rw [discard_bind]
  apply refuses_step (reads_expect ho)
  exact refuses_bind hx.reads h

theorem refuses_functionOf_body (ho : o.kind = .funcWord)
    (hx : NamePart name xs (ahead (us ++ vs) t.kind)) (hp : ItemsPart .name ps us (ahead vs t.kind))
    (h : Refuses (bodyOf S name ps) vs t cause) :
    Refuses (functionOf S) (o :: (xs ++ (us ++ vs))) t cause :=
  refuses_functionOf ho hx (refuses_bind (hp.reads fun _ _ _ h => reads_name h) h)

theorem refuses_bodyOf_arrow (hq : q.kind = .arrow) (h : Refuses expression us t cause) :
    Refuses (bodyOf S name ps) (q :: us) t cause :=
  refuses_step (reads_accept hq) (refuses_first h)

theorem refuses_bodyOf_block (hk : ahead us t.kind ≠ .arrow) (h : Refuses (blockOf S) us t cause) :
    Refuses (bodyOf S name ps) us t cause :=
  refuses_peek (reads_accept_other hk) (refuses_first h)

theorem ItemsPart.ahead_ne_identifier {s : Shape} {item : Phrase s} {as : List s.Carrier}
    (h : ItemsPart item as us k) (hk : k ≠ .identifier) : ahead us k ≠ .identifier := by
  cases h with
  | given ho => simp [ho]
  | absent => exact hk

theorem completable_function_block (ho : o.kind = .funcWord)
    (hx : NamePart name xs (ahead (us ++ vs) k)) (hp : ItemsPart .name ps us (ahead vs k))
    (ha : ahead vs k ≠ .arrow) (h : Clause.block.Completable vs) :
    Clause.function.Completable (o :: (xs ++ (us ++ vs))) := by
  intro j hj
  obtain ⟨b, ws, ns, hn, h, hnext⟩ := h.block k hj
  have hp' : ItemsPart .name ps us (ahead (vs ++ ws) (ahead ns j)) := by
    rcases hnext with hnext | hnext <;> rw [hnext]
    · exact hp
    · exact hp.before rfl
  have hx' : NamePart name xs (ahead (us ++ (vs ++ ws)) (ahead ns j)) := by
    rw [ahead_append] at hx ⊢
    rcases hnext with hnext | hnext <;> rw [hnext] at hp' ⊢
    · exact hx
    · exact hx.before (hp'.ahead_ne_identifier (by decide))
  have ha' : ahead (vs ++ ws) (ahead ns j) ≠ .arrow := by
    rcases hnext with hnext | hnext <;> rw [hnext]
    · exact ha
    · decide
  have hall := Composes.blockFunction ho hx' hp' ha' h
  exact ⟨_, ws, ns, hn, by simpa using hall⟩

theorem completable_function (ho : o.kind = .funcWord) (hx : NamePart name xs (ahead us k))
    (h : Begins (ItemsPart .name) us) : Clause.function.Completable (o :: (xs ++ us)) := by
  obtain ⟨ps, vs, h⟩ := h
  have hp : ItemsPart .name ps (us ++ vs) (ahead [] .lbrace) := h .lbrace rfl
  have hx' : NamePart name xs (ahead (us ++ vs ++ []) .lbrace) := by
    rw [List.append_nil]
    exact hx.before (hp.ahead_ne_identifier (by decide))
  have hblock : Clause.block.Completable [] :=
    fun _ _ => ⟨_, _, [], newlines_nil, composes_emptyBlock⟩
  intro j hj
  obtain ⟨n, ws, ns, hn, hall⟩ := completable_function_block ho hx' hp (by decide) hblock j hj
  exact ⟨n, vs ++ ws, ns, hn, by simpa using hall⟩

theorem completable_function_arrow (ho : o.kind = .funcWord)
    (hx : NamePart name xs (ahead us .arrow)) (hp : ItemsPart .name ps us .arrow)
    (hq : q.kind = .arrow) (h : Phrase.expression.Completable vs) :
    Clause.function.Completable (o :: (xs ++ (us ++ q :: vs))) := by
  obtain ⟨e, ws, h⟩ := h
  intro j hj
  have hall := Composes.arrowFunction ho hx hp hq (h j (continues_of_closing hj))
  exact ⟨_, ws, [], newlines_nil, by simpa using hall⟩

/-- What comes of the tokens where the body of a function should stand. -/
theorem decided_functionBody (hB : Clause.block.Decided L) (ho : o.kind = .funcWord)
    (hx : NamePart name xs (ahead (us ++ ts) .eof)) (hp : ItemsPart .name ps us (ahead ts .eof))
    (he : Ended ts) (hL : ts.length ≤ L) :
    Verdict (((Clause.function.standard.next o).after xs).after us) ts := by
  rw [ahead_append] at hx
  by_cases ha : ahead ts .eof = .arrow
  · rw [ha] at hx hp
    obtain ⟨q, ql, rfl⟩ := he.exists_cons
    replace ha : q.kind = .arrow := ha
    refine .step ((decided_expression _ ql (he.tail (by simp [ha])) (Nat.le_refl _)).map
      (fun vs w wl e _ h => ⟨_, .arrowFunction ho hx hp ha h⟩) (fun vs w wl cause _ hr n _ => ?_)
      (fun vs w wl _ h => completable_function_arrow ho hx hp ha h))
    have hx' : NamePart name xs (ahead (us ++ q :: vs) w.kind) := by simpa [ha] using hx
    have hp' : ItemsPart .name ps us (ahead (q :: vs) w.kind) := by simpa [ha] using hp
    exact refuses_functionOf_body ho hx' hp' (refuses_bodyOf_arrow ha (refuses_expression hr))
  · refine (hB ts he hL).map (fun vs w wl b hvs h => ⟨.function name ps b false, ?_⟩)
      (fun vs w wl cause hvs hr n hl => ?_) (fun vs w wl hvs h => ?_)
    all_goals
      rw [← ahead_eq_of_split hvs] at hx hp ha
      rw [← ahead_append] at hx
    · exact .blockFunction ho hx hp ha h
    · simp only [List.length_append, List.length_cons] at hl
      exact refuses_functionOf_body ho hx hp (refuses_bodyOf_block ha (hr n (by omega)))
    · exact completable_function_block ho hx hp ha h

theorem decided_function (hB : Clause.block.Decided L) (ho : o.kind = .funcWord)
    (he : Ended ts) (hL : ts.length ≤ L) :
    Verdict (Clause.function.standard.next o) ts := by
  obtain ⟨name, xs, rest, rfl, hrest, hx⟩ := exists_namePart he
  rw [List.length_append] at hL
  have hv : Verdict (optional .name (do return (← expect .identifier).text)) rest :=
    decided_optionalItems .name closedBy_name decided_name parses_name hrest
  refine Verdict.shift (hv.bind (fun us u ul ps hts hp => ?_) (fun us u ul cause hts hr n _ => ?_)
    (fun us u ul hts h => ?_))
  · have hlen := congrArg List.length hts
    rw [List.length_append] at hlen
    rw [hts] at hrest hx
    exact decided_functionBody hB ho hx hp hrest.suffix (by omega)
  · rw [← ahead_eq_of_split hts] at hx
    exact refuses_functionOf ho hx (refuses_first hr)
  · rw [← ahead_eq_of_split hts] at hx
    exact completable_function ho hx h

end Functions

section Decorations

variable {d f : Node} {ds : List Node}

theorem refuses_decoratedOf (h : decorating.refused us t cause) :
    Refuses (decoratedOf S) us t cause := by
  intro tl
  have hl : us.length < (us ++ t :: tl).length := by simp
  change (decorators (us ++ t :: tl).length >>= _) _ = _
  exact bind_of_error (h _ hl tl)

theorem refuses_decoratedOf_function (hd : Decorators ds us .funcWord) (ho : o.kind = .funcWord)
    (h : Refuses (functionOf S) (o :: vs) t cause) :
    Refuses (decoratedOf S) (us ++ o :: vs) t cause := by
  intro tl
  have hsplit : us ++ o :: vs ++ t :: tl = us ++ o :: (vs ++ t :: tl) := List.append_assoc _ _ _
  have hl : us.length ≤ (us ++ o :: (vs ++ t :: tl)).length := by
    simp only [List.length_append]
    omega
  have hkind : currentKind (o :: (vs ++ t :: tl)) = .ok .funcWord (o :: (vs ++ t :: tl)) := by
    rw [← ho]
    rfl
  rw [hsplit]
  change (decorators (us ++ o :: (vs ++ t :: tl)).length >>= _) _ = _
  rw [bind_of_ok (hd.reads hl o _ ho), bind_of_ok hkind, if_pos rfl]
  exact bind_of_error (h tl)

theorem composes_decorators (hd : Decorators (d :: ds) us k) (hk : k ≠ .funcWord) :
    ∃ n, Composes .form n us k := by
  cases ds with
  | nil => exact ⟨_, .decorator hd hk⟩
  | cons e ds => exact ⟨_, .decorators hd hk⟩

theorem completable_decorators (h : decorating.begun us) : Clause.form.Completable us := by
  obtain ⟨-, d, ds, vs, h⟩ := h
  intro j hj
  obtain ⟨n, hall⟩ := composes_decorators (h j hj) (by rcases hj with rfl | rfl <;> decide)
  exact ⟨n, vs, [], newlines_nil, hall⟩

theorem completable_decorated (hd : Decorators (d :: ds) us .funcWord) (ho : o.kind = .funcWord)
    (h : Clause.function.Completable (o :: vs)) : Clause.form.Completable (us ++ o :: vs) := by
  intro j hj
  obtain ⟨f, ws, ns, hn, h⟩ := h j hj
  have hall : Composes .form (.decorated (d :: ds) f) (us ++ (o :: vs ++ ws)) (ahead ns j) :=
    .decorated (by simpa [ho] using hd) h
  exact ⟨_, ws, ns, hn, by simpa using hall⟩

theorem decided_decorated (hB : Clause.block.Decided L)
    (ho : ahead ts .eof = .atSign) (he : Ended ts) (hL : ts.length ≤ L + 1) :
    Verdict Clause.form.standard ts := by
  refine (decided_decorators he).bind (fun us u ul ds hts hd => ?_)
    (fun us u ul cause hts hr n _ => ?_) (fun us u ul _ h => completable_decorators h)
  · cases hds : ds with
    | nil =>
      -- the first token is a sign, so there is a decorator
      rw [hds] at hd
      cases hd with
      | nil hk => exact absurd ((ahead_eq_of_split hts).trans ho) hk
    | cons d ds =>
      rw [hds] at hd
      by_cases hf : u.kind = .funcWord
      · replace hd : Decorators (d :: ds) us .funcWord := hf ▸ hd
        have hfirst := hd.opens u.kind
        rw [hts] at he hL
        simp only [List.length_append, List.length_cons] at hL
        have hpos : 0 < us.length := by
          cases hd
          simp
        refine .step ((decided_function hB hf (he.suffix.tail (by simp [hf])) (by omega)).map
          (fun vs w wl f _ h => ⟨.decorated (d :: ds) f, .decorated (by simpa [hf] using hd) h⟩)
          (fun vs w wl cause _ hr n hl => ?_) (fun vs w wl _ h => completable_decorated hd hf h))
        simp only [List.length_append, List.length_cons] at hl
        apply refuses_currentKind
        rw [ahead_append, ahead_of_ne_nil (List.ne_nil_of_length_pos hpos) _ u.kind, hfirst]
        exact refuses_decoratedOf_function hd hf (hr n (by rw [List.length_cons]; omega))
      · obtain ⟨n, h⟩ := composes_decorators hd hf
        exact .here h
  · apply refuses_currentKind
    rw [ahead_eq_of_split hts, ho]
    exact refuses_decoratedOf hr

end Decorations

section Statements

/-- Kinds with which a statement begins that is no expression. -/
def leads (k : Kind) : Bool :=
  [Kind.atSign, .ifWord, .whileWord, .forWord, .funcWord, .returnWord, .tryWord].contains k

theorem formAt_of_not_leads (h : leads k = false) : formAt S k = (do
    let e ← expression
    let j ← currentKind
    if j = .semicolon || j = .newline then discard advance
    return e) := by
  unfold formAt
  split
  case h_8 => rfl
  all_goals simp_all [leads]

theorem decided_expressionForm (hk : leads (ahead ts .eof) = false) (he : Ended ts) :
    Verdict Clause.form.standard ts := by
  refine (decided_expression _ ts he (Nat.le_refl _)).bind (fun us u ul e hts h => ?_)
    (fun us u ul cause hts hr n _ => ?_) (fun us u ul _ h => ?_)
  · rw [hts] at he
    by_cases hu : u.kind = .semicolon ∨ u.kind = .newline
    · obtain ⟨w, wl, rfl⟩ := (he.suffix.tail (by rcases hu with hu | hu <;> simp [hu])).exists_cons
      exact .reads [u] w wl rfl (.expression h (.sign hu))
    · rw [not_or] at hu
      exact .here (composes_expression h hu.1 hu.2)
  · apply refuses_currentKind
    rw [ahead_eq_of_split hts, formAt_of_not_leads hk]
    exact refuses_first (refuses_expression hr)
  · obtain ⟨e, vs, h⟩ := h
    intro j hj
    have hall :=
      composes_expression (h j (continues_of_closing hj)) (by rcases hj with rfl | rfl <;> decide)
        (by rcases hj with rfl | rfl <;> decide)
    exact ⟨e, vs, [], newlines_nil, hall⟩

theorem decided_returnForm (ho : o.kind = .returnWord) (he : Ended (o :: ts)) :
    Verdict Clause.form.standard (o :: ts) := by
  refine (decided_returned ho he).map (fun us u ul n _ h => ⟨n, .returning h⟩)
    (fun us u ul cause hts hr n _ => ?_) (fun us u ul _ h j hj => ?_)
  · apply refuses_currentKind
    rw [ahead_eq_of_split hts, ahead_cons, ho]
    exact hr
  · obtain ⟨n, vs, h⟩ := h
    exact ⟨n, vs, [], newlines_nil, .returning (h j (continues_of_closing hj))⟩

theorem decided_form (hB : Clause.block.Decided L) : Clause.form.Decided (L + 1) := by
  intro ts he hL
  obtain ⟨o, tl, rfl⟩ := he.exists_cons
  have hlen : tl.length ≤ L := by simpa using hL
  cases ho : o.kind with
  | atSign => exact decided_decorated hB ho he hL
  | ifWord => exact .step (decided_if hB ho (he.tail (by simp [ho])) hlen)
  | whileWord => exact .step (decided_while hB ho (he.tail (by simp [ho])) hlen)
  | forWord => exact .step (decided_for hB ho (he.tail (by simp [ho])) hlen)
  | tryWord => exact .step (decided_try hB ho (he.tail (by simp [ho])) hlen)
  | returnWord => exact decided_returnForm ho he
  | funcWord =>
    refine .step ((decided_function hB ho (he.tail (by simp [ho])) hlen).map
      (fun us u ul f _ h => ⟨f, .definition h⟩)
      (fun us u ul cause _ hr n hl => refuses_formOf ho (hr n hl)) (fun us u ul _ h j hj => ?_))
    obtain ⟨f, vs, ns, hn, h⟩ := h j hj
    exact ⟨f, vs, ns, hn, .definition h⟩
  | _ => exact decided_expressionForm (by rw [ahead_cons, ho]; rfl) he

theorem decided_statement_of_form (hF : Clause.form.Decided L) : Clause.statement.Decided L := by
  intro ts he hL
  obtain ⟨ns, hsplit, hn, hnl, hrest⟩ := dropNewlines_spec he
  have hlen := congrArg List.length hsplit
  rw [List.length_append] at hlen
  rw [hsplit]
  refine Verdict.shift ((hF _ hrest (by omega)).map (fun us u ul s _ h => ⟨s, .statement hn h⟩)
    (fun us u ul cause hts hr n hl => ?_) (fun us u ul _ h j hj => ?_))
  · rw [← ahead_eq_of_split hts] at hnl
    rw [List.length_append] at hl
    obtain ⟨m, rfl⟩ : ∃ m, n = m + 1 := ⟨n - 1, by omega⟩
    rw [statementWithin_succ]
    exact refuses_bind (reads_skipNewlines hn hnl) (hr m (by omega))
  · obtain ⟨s, vs, ms, hm, h⟩ := h j hj
    have hall := Composes.statement hn h
    exact ⟨s, vs, ms, hm, by simpa using hall⟩

theorem decided_statement (L : Nat) : Clause.statement.Decided L := by
  induction L with
  | zero =>
    intro ts he hL
    exact absurd (List.eq_nil_of_length_eq_zero (by omega)) he.ne_nil
  | succ L ih => exact decided_statement_of_form (decided_form (decided_block ih))

theorem refuses_statement (h : Clause.statement.Refused us t cause) :
    Refuses statement us t cause := by
  intro tl
  have hd : us.length < depthFor (us ++ t :: tl) := by
    simp only [depthFor, List.length_append]
    omega
  exact h _ hd tl

theorem parses_statement (m : Nat) : ParsesStatements statement m :=
  ⟨fun _ _ _ _ h => h.reads, fun _ _ _ _ h => refuses_statement h⟩

end Statements

/-- A whole program. -/
def programmed : Standard (List Node) where
  whole ss us k := k = .eof ∧ Program ss us
  refused := Refuses program
  begun us := ∃ ss vs, Program ss (us ++ vs)

theorem begins_program (hn : Newlines ns) (hu : ahead us k ≠ .newline) (h : (lined .eof).begun us) :
    programmed.begun (ns ++ us) := by
  cases us with
  | nil => exact ⟨[], [], by simpa using Program.intro hn (by decide) .nil⟩
  | cons u us =>
    obtain ⟨ss, vs, h⟩ := h
    have hall : Program ss (ns ++ (u :: us ++ vs)) := .intro hn hu h
    exact ⟨ss, vs, by simpa using hall⟩

theorem refuses_program (hn : Newlines ns) (hu : ahead us t.kind ≠ .newline)
    (h : ∀ f, us.length < f → Refuses (itemsUntil .eof (lineOf statement) f) us t cause) :
    Refuses program (ns ++ us) t cause := by
  unfold program
  apply refuses_bind (reads_skipNewlines hn hu)
  intro tl
  have hl : us.length < (us ++ t :: tl).length := by simp
  change (itemsUntil .eof (lineOf statement) (us ++ t :: tl).length >>= _) _ = _
  exact bind_of_error (h _ hl tl)

theorem decided_program (he : Ended ts) : Verdict programmed ts := by
  obtain ⟨ns, hsplit, hn, hnl, hrest⟩ := dropNewlines_spec he
  rw [hsplit]
  refine Verdict.shift ((decided_lines (decided_statement _) (.inr rfl) hrest (Nat.le_refl _)).map
    (fun us u ul ss hts h => ⟨ss, h.1, ?_⟩) (fun us u ul cause hts hr => ?_)
      (fun us u ul hts h => ?_))
  all_goals rw [← ahead_eq_of_split hts] at hnl
  · rw [h.1] at hnl
    exact .intro hn hnl h.2
  · have hS := parses_statement us.length
    exact refuses_program hn hnl (hr _ hS.reads hS.refuses)
  · exact begins_program hn hnl h

end FloScript.Parser
