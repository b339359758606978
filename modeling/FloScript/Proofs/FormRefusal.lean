import FloScript.Proofs.ClauseRefusal

/-! What comes of the tokens after a word that begins a condition, a loop or an attempt. -/
namespace FloScript.Parser

variable {k word : Kind} {t o q x : Token} {ts us vs ns cs : List Token}
  {cause : SourceFault} {L n : Nat} {S : Parser Node} {e : Node} {b : List Node}

theorem refuses_formOf (ho : o.kind = k) (h : Refuses (formAt S k) (o :: us) t cause) :
    Refuses (formOf S) (o :: us) t cause := by
  subst ho
  exact refuses_currentKind h

theorem composes_without (hn : Newlines ns) (hk : k = .rbrace ∨ k = .eof)
    (hw : resumes word = true) :
    Composes (.wordBlock word) none ns k :=
  .without hn (ne_of_resumes (resumes_of_closing hk) rfl) (ne_of_resumes (resumes_of_closing hk) hw)

section Conditions

variable {c : Node}

theorem refuses_ifOf (ho : o.kind = .ifWord) (h : Refuses expression us t cause) :
    Refuses (ifOf S) (o :: us) t cause := by
  unfold ifOf
  rw [discard_bind]
  exact refuses_step (reads_expect ho) (refuses_first h)

theorem refuses_ifOf_arrow (ho : o.kind = .ifWord)
    (hc : Spells .expression c cs .arrow) (hq : q.kind = .arrow)
    (h : Refuses (branch >>= fun b => arrowElse >>= fun no => pure (Node.conditional c b no))
      us t cause) :
    Refuses (ifOf S) (o :: (cs ++ q :: us)) t cause := by
  unfold ifOf
  rw [discard_bind]
  apply refuses_step (reads_expect ho)
  apply refuses_bind (by rw [ahead_cons, hq]; exact hc.reads)
  apply refuses_step (reads_accept hq)
  exact h

theorem refuses_ifOf_block (ho : o.kind = .ifWord) (hc : Spells .expression c cs (ahead us t.kind))
    (ha : ahead us t.kind ≠ .arrow)
    (h : Refuses (blockOf S >>= fun b => wordBlock .elseWord S >>= fun no =>
      pure (Node.conditional c b no)) us t cause) :
    Refuses (ifOf S) (o :: (cs ++ us)) t cause := by
  unfold ifOf
  rw [discard_bind]
  apply refuses_step (reads_expect ho)
  apply refuses_bind hc.reads
  apply refuses_peek (reads_accept_other ha)
  exact h

theorem completable_blockIf (ho : o.kind = .ifWord) (hc : Spells .expression c cs (ahead us k))
    (ha : ahead us k ≠ .arrow) (h : Clause.block.Completable us) :
    Clause.form.Completable (o :: (cs ++ us)) := by
  intro j hj
  obtain ⟨b, vs, ns, hn, h, hnext⟩ := h.block k hj
  have hall : Composes .form (.conditional c b none) (o :: (cs ++ ((us ++ vs) ++ ns))) j := by
    refine .blockIf ho ?_ ?_ h (composes_without hn hj rfl)
    · rw [ahead_append]
      exact hc.beforeBrace hnext
    · rw [ahead_append]
      rcases hnext with hnext | hnext <;> rw [hnext]
      · exact ha
      · decide
  exact ⟨_, vs ++ ns, [], newlines_nil, by simpa using hall⟩

theorem completable_condition (ho : o.kind = .ifWord) (h : Phrase.expression.Completable us) :
    Clause.form.Completable (o :: us) := by
  obtain ⟨c, vs, h⟩ := h
  intro j hj
  have hc : Spells .expression c (us ++ vs) (ahead [] .lbrace) := h .lbrace rfl
  have hblock : Clause.block.Completable [] :=
    fun _ _ => ⟨_, _, [], newlines_nil, composes_emptyBlock⟩
  obtain ⟨n, ws, ns, hn, hall⟩ := completable_blockIf ho hc (by decide) hblock j hj
  exact ⟨n, vs ++ ws, ns, hn, by simpa using hall⟩

theorem completable_blockIf_else (ho : o.kind = .ifWord)
    (hc : Spells .expression c cs (ahead (us ++ vs) k)) (ha : ahead (us ++ vs) k ≠ .arrow)
    (hb : Composes .block b us (ahead vs k)) (h : (Clause.wordBlock .elseWord).Completable vs) :
    Clause.form.Completable (o :: (cs ++ (us ++ vs))) := by
  cases vs with
  | nil =>
    rw [List.append_nil] at hc ha ⊢
    exact completable_blockIf ho hc ha (hb.completable trivial)
  | cons v vs =>
    intro j hj
    obtain ⟨no, ws, ns, hn, h⟩ := h j hj
    have hnext : ahead (us ++ (v :: vs ++ ws)) (ahead ns j) = ahead (us ++ v :: vs) k := by simp
    rw [← hnext] at hc ha
    have hall := Composes.blockIf ho hc ha hb h
    exact ⟨_, ws, ns, hn, by simpa using hall⟩

theorem Returns.begins (h : Returns e us k) : Begins Returns us := by
  cases h with
  | nothing hr => exact begins_returned hr completable_nil
  | value hr h => exact begins_returned hr h.completable

theorem ArrowBranch.begins (h : ArrowBranch b us k) : Begins ArrowBranch us := by
  cases h with
  | returning h => exact begins_branched_returning h.begins
  | expression h => exact begins_branched h.completable

theorem completable_arrowIf (ho : o.kind = .ifWord)
    (hc : Spells .expression c cs .arrow) (hq : q.kind = .arrow) (h : Begins ArrowBranch us) :
    Clause.form.Completable (o :: (cs ++ q :: us)) := by
  obtain ⟨b, vs, h⟩ := h
  intro j hj
  have hno : ArrowElse none [] j :=
    .absent newlines_nil (ne_of_resumes (resumes_of_closing hj) rfl)
      (ne_of_resumes (resumes_of_closing hj) rfl)
  have hall := Composes.arrowIf ho hc hq (h j (continues_of_closing hj)) hno
  exact ⟨_, vs, [], newlines_nil, by simpa using hall⟩

theorem completable_arrowIf_else (ho : o.kind = .ifWord)
    (hc : Spells .expression c cs .arrow) (hq : q.kind = .arrow)
    (hb : ArrowBranch b us (ahead vs k)) (h : Begins ArrowElse vs) :
    Clause.form.Completable (o :: (cs ++ q :: (us ++ vs))) := by
  cases vs with
  | nil =>
    rw [List.append_nil]
    exact completable_arrowIf ho hc hq hb.begins
  | cons v vs =>
    obtain ⟨no, ws, h⟩ := h
    intro j hj
    have hall :
        Composes .form (.conditional c b no) (o :: (cs ++ q :: (us ++ (v :: vs ++ ws)))) j :=
      .arrowIf ho hc hq hb (h j (continues_of_closing hj))
    exact ⟨_, ws, [], newlines_nil, by simpa using hall⟩

/-- What comes of the tokens after the arrow of a condition. -/
theorem decided_arrowIf (ho : o.kind = .ifWord)
    (hc : Spells .expression c cs .arrow) (hq : q.kind = .arrow) (he : Ended ts) :
    Verdict (((Clause.form.standard.next o).after cs).next q) ts := by
  refine (decided_branch he).bind (fun us u ul b hts hb => ?_) (fun us u ul cause _ hr n _ => ?_)
    (fun us u ul _ h => completable_arrowIf ho hc hq h)
  · rw [hts] at he
    refine (decided_arrowElse he.suffix).map (fun vs w wl no hvs h => ⟨.conditional c b no, ?_⟩)
      (fun vs w wl cause hvs hr n _ => ?_) (fun vs w wl hvs h => ?_)
    all_goals
      have hnext : ahead vs w.kind = u.kind := ahead_eq_of_split hvs
      rw [← hnext] at hb
    · exact .arrowIf ho hc hq hb h
    · have hno :
          Refuses (branch >>= fun b => arrowElse >>= fun no => pure (Node.conditional c b no))
            (us ++ vs) w cause :=
        refuses_bind (ArrowBranch.reads hb) (refuses_first hr)
      exact refuses_formOf ho (refuses_ifOf_arrow ho hc hq hno)
    · exact completable_arrowIf_else ho hc hq hb h
  · exact refuses_formOf ho (refuses_ifOf_arrow ho hc hq (refuses_first hr))

/-- What comes of the tokens after a condition that no arrow follows. -/
theorem decided_blockIf (hB : Clause.block.Decided L) (ho : o.kind = .ifWord)
    (hc : Spells .expression c cs (ahead ts .eof)) (ha : ahead ts .eof ≠ .arrow)
    (he : Ended ts) (hL : ts.length ≤ L) :
    Verdict ((Clause.form.standard.next o).after cs) ts := by
  refine (hB ts he hL).bind (fun us u ul b hts hb => ?_) (fun us u ul cause hts hr n hl => ?_)
    (fun us u ul hts h => ?_)
  · rw [hts] at he hL
    rw [List.length_append] at hL
    have hv : Verdict (Clause.wordBlock .elseWord).standard (u :: ul) :=
      decided_wordBlock hB (by decide) _ he.suffix (by omega)
    refine hv.map (fun vs w wl no hvs h => ⟨.conditional c b no, ?_⟩)
      (fun vs w wl cause hvs hr n hl => ?_) (fun vs w wl hvs h => ?_)
    all_goals
      have hnext : ahead vs w.kind = u.kind := ahead_eq_of_split hvs
      have hall : ahead (us ++ vs) w.kind = ahead ts .eof := by
        rw [ahead_append, hnext]
        exact ahead_eq_of_split hts
      rw [← hnext] at hb
      rw [← hall] at hc ha
    · exact .blockIf ho hc ha hb h
    · simp only [List.length_append, List.length_cons] at hl
      have hno :
          Refuses (blockOf (statementWithin n) >>= fun b =>
            wordBlock .elseWord (statementWithin n) >>= fun no =>
            pure (Node.conditional c b no)) (us ++ vs) w cause :=
        refuses_bind (Composes.accepted hb n (by omega)) (refuses_first (hr n (by omega)))
      exact refuses_formOf ho (refuses_ifOf_block ho hc ha hno)
    · exact completable_blockIf_else ho hc ha hb h
  · rw [← ahead_eq_of_split hts] at hc ha
    simp only [List.length_append, List.length_cons] at hl
    exact refuses_formOf ho (refuses_ifOf_block ho hc ha (refuses_first (hr n (by omega))))
  · rw [← ahead_eq_of_split hts] at hc ha
    exact completable_blockIf ho hc ha h

theorem decided_if (hB : Clause.block.Decided L) (ho : o.kind = .ifWord)
    (he : Ended ts) (hL : ts.length ≤ L) :
    Verdict (Clause.form.standard.next o) ts := by
  refine (decided_expression L ts he hL).bind (fun cs u ul c hts hc => ?_)
    (fun us u ul cause _ hr n _ => ?_) (fun us u ul _ h => completable_condition ho h)
  · rw [hts] at he hL
    rw [List.length_append] at hL
    by_cases hq : u.kind = .arrow
    · replace hc : Spells .expression c cs .arrow := hq ▸ hc
      exact .step (decided_arrowIf ho hc hq (he.suffix.tail (by simp [hq])))
    · exact decided_blockIf hB ho hc hq he.suffix (by omega)
  · exact refuses_formOf ho (refuses_ifOf ho (refuses_expression hr))

end Conditions

section Loops

variable {c : Node}

theorem refuses_whileOf (ho : o.kind = .whileWord) (h : Refuses expression us t cause) :
    Refuses (whileOf S) (o :: us) t cause := by
  unfold whileOf
  rw [discard_bind]
  exact refuses_step (reads_expect ho) (refuses_first h)

theorem refuses_whileOf_body (ho : o.kind = .whileWord)
    (hc : Spells .expression c cs (ahead us t.kind)) (h : Refuses (blockOf S) us t cause) :
    Refuses (whileOf S) (o :: (cs ++ us)) t cause := by
  unfold whileOf
  rw [discard_bind]
  apply refuses_step (reads_expect ho)
  exact refuses_bind hc.reads (refuses_first h)

theorem completable_while_body (ho : o.kind = .whileWord)
    (hc : Spells .expression c cs (ahead us k)) (h : Clause.block.Completable us) :
    Clause.form.Completable (o :: (cs ++ us)) := by
  intro j hj
  obtain ⟨b, vs, ns, hn, h, hnext⟩ := h.block k hj
  have hall := Composes.whileLoop ho (hc.beforeBrace hnext) h
  exact ⟨_, vs, ns, hn, by simpa using hall⟩

theorem completable_while (ho : o.kind = .whileWord) (h : Phrase.expression.Completable us) :
    Clause.form.Completable (o :: us) := by
  obtain ⟨c, vs, h⟩ := h
  intro j _
  have hall := Composes.whileLoop ho (h .lbrace rfl) (composes_emptyBlock (k := j))
  exact ⟨_, vs ++ [sample .lbrace, sample .rbrace], [], newlines_nil, by simpa using hall⟩

theorem decided_while (hB : Clause.block.Decided L) (ho : o.kind = .whileWord)
    (he : Ended ts) (hL : ts.length ≤ L) :
    Verdict (Clause.form.standard.next o) ts := by
  refine (decided_expression L ts he hL).bind (fun cs u ul c hts hc => ?_)
    (fun us u ul cause _ hr n _ => ?_) (fun us u ul _ h => completable_while ho h)
  · rw [hts] at he hL
    rw [List.length_append] at hL
    refine (hB _ he.suffix (by omega)).map (fun us w wl b hus hb => ⟨.whileLoop c b, ?_⟩)
      (fun us w wl cause hus hr n hl => ?_) (fun us w wl hus h => ?_)
    all_goals
      have hnext : ahead us w.kind = u.kind := ahead_eq_of_split hus
      rw [← hnext] at hc
    · exact .whileLoop ho hc hb
    · simp only [List.length_append, List.length_cons] at hl
      exact refuses_formOf ho (refuses_whileOf_body ho hc (hr n (by omega)))
    · exact completable_while_body ho hc h
  · exact refuses_formOf ho (refuses_whileOf ho (refuses_expression hr))

theorem refuses_forOf_name (ho : o.kind = .forWord) (hx : t.kind ≠ .identifier) :
    Refuses (forOf S) [o] t (.expected .identifier t.kind) := by
  unfold forOf
  rw [discard_bind]
  exact refuses_step (reads_expect ho) (refuses_first (refuses_expect hx))

theorem refuses_forOf (ho : o.kind = .forWord) (hx : x.kind = .identifier)
    (h : Refuses expression us t cause) :
    Refuses (forOf S) (o :: x :: us) t cause := by
  unfold forOf
  rw [discard_bind]
  apply refuses_step (reads_expect ho)
  exact refuses_step (reads_expect hx) (refuses_first h)

theorem refuses_forOf_body (ho : o.kind = .forWord) (hx : x.kind = .identifier)
    (hc : Spells .expression c cs (ahead us t.kind)) (h : Refuses (blockOf S) us t cause) :
    Refuses (forOf S) (o :: x :: (cs ++ us)) t cause := by
  unfold forOf
  rw [discard_bind]
  apply refuses_step (reads_expect ho)
  apply refuses_step (reads_expect hx)
  exact refuses_bind hc.reads (refuses_first h)

theorem completable_for_body (ho : o.kind = .forWord) (hx : x.kind = .identifier)
    (hc : Spells .expression c cs (ahead us k)) (h : Clause.block.Completable us) :
    Clause.form.Completable (o :: x :: (cs ++ us)) := by
  intro j hj
  obtain ⟨b, vs, ns, hn, h, hnext⟩ := h.block k hj
  have hall := Composes.forLoop ho hx (hc.beforeBrace hnext) h
  exact ⟨_, vs, ns, hn, by simpa using hall⟩

theorem completable_for (ho : o.kind = .forWord) (hx : x.kind = .identifier)
    (h : Phrase.expression.Completable us) :
    Clause.form.Completable (o :: x :: us) := by
  obtain ⟨c, vs, h⟩ := h
  intro j _
  have hall := Composes.forLoop ho hx (h .lbrace rfl) (composes_emptyBlock (k := j))
  exact ⟨_, vs ++ [sample .lbrace, sample .rbrace], [], newlines_nil, by simpa using hall⟩

theorem completable_for_name (ho : o.kind = .forWord) : Clause.form.Completable [o] := by
  intro j hj
  obtain ⟨n, vs, ns, hn, hall⟩ :=
    completable_for ho (x := sample .identifier) rfl completable_nil j hj
  exact ⟨n, sample .identifier :: vs, ns, hn, by simpa using hall⟩

theorem decided_for (hB : Clause.block.Decided L) (ho : o.kind = .forWord)
    (he : Ended ts) (hL : ts.length ≤ L) :
    Verdict (Clause.form.standard.next o) ts := by
  obtain ⟨x, xl, rfl⟩ := he.exists_cons
  by_cases hx : x.kind = .identifier
  · have hrest := he.tail (by simp [hx])
    rw [List.length_cons] at hL
    refine .step ((decided_expression L xl hrest (by omega)).bind (fun cs u ul c hts hc => ?_)
      (fun us u ul cause _ hr n _ => ?_) (fun us u ul _ h => completable_for ho hx h))
    · rw [hts] at hrest hL
      rw [List.length_append] at hL
      refine (hB _ hrest.suffix (by omega)).map (fun us w wl b hus hb => ⟨.forLoop x.text c b, ?_⟩)
        (fun us w wl cause hus hr n hl => ?_) (fun us w wl hus h => ?_)
      all_goals
        have hnext : ahead us w.kind = u.kind := ahead_eq_of_split hus
        rw [← hnext] at hc
      · exact .forLoop ho hx hc hb
      · simp only [List.length_append, List.length_cons] at hl
        exact refuses_formOf ho (refuses_forOf_body ho hx hc (hr n (by omega)))
      · exact completable_for_body ho hx hc h
    · exact refuses_formOf ho (refuses_forOf ho hx (refuses_expression hr))
  · have hr : (Clause.form.standard.next o).refused [] x (.expected .identifier x.kind) := by
      intro n _
      exact refuses_formOf ho (refuses_forOf_name ho hx)
    exact .refuses [] x xl rfl hr (completable_for_name ho)

end Loops

section Attempts

variable {hs fs : List Token} {y : Option String × Option (List Node)}

theorem refuses_tryOf (ho : o.kind = .tryWord)
    (h : Refuses (blockOf S >>= fun b => catchOf S >>= fun y =>
      wordBlock .finallyWord S >>= fun f => pure (Node.trying b y.1 y.2 f)) us t cause) :
    Refuses (tryOf S) (o :: us) t cause := by
  rw [tryOf_eq, discard_bind]
  exact refuses_step (reads_expect ho) h

theorem completable_try (ho : o.kind = .tryWord) (h : Clause.block.Completable us) :
    Clause.form.Completable (o :: us) := by
  intro j hj
  obtain ⟨b, vs, ns, hn, h⟩ := h j hj
  have hj' := resumes_of_closing hj
  have hh : Composes .catcher (none, none) ns j :=
    .uncaught hn (ne_of_resumes hj' rfl) (ne_of_resumes hj' rfl)
  have hall : Composes .form (.trying b none none none) (o :: ((us ++ vs) ++ (ns ++ []))) j :=
    .trying ho (by simpa using h) hh (composes_without newlines_nil hj rfl)
  exact ⟨_, vs ++ ns, [], newlines_nil, by simpa using hall⟩

theorem completable_try_catch (ho : o.kind = .tryWord) (hb : Composes .block b us (ahead hs k))
    (h : Clause.catcher.Completable hs) : Clause.form.Completable (o :: (us ++ hs)) := by
  cases hs with
  | nil =>
    rw [List.append_nil]
    exact completable_try ho (hb.completable trivial)
  | cons v hs =>
    intro j hj
    obtain ⟨y, vs, ns, hn, h⟩ := h j hj
    have hall : Composes .form (.trying b y.1 y.2 none) (o :: (us ++ ((v :: hs ++ vs) ++ ns))) j :=
      .trying ho (by simpa using hb) h (composes_without hn hj rfl)
    exact ⟨_, vs ++ ns, [], newlines_nil, by simpa using hall⟩

theorem completable_try_finally (ho : o.kind = .tryWord)
    (hb : Composes .block b us (ahead (hs ++ fs) k)) (hh : Composes .catcher y hs (ahead fs k))
    (h : (Clause.wordBlock .finallyWord).Completable fs) :
    Clause.form.Completable (o :: (us ++ (hs ++ fs))) := by
  cases fs with
  | nil =>
    rw [List.append_nil] at hb ⊢
    exact completable_try_catch ho hb (hh.completable trivial)
  | cons v fs =>
    intro j hj
    obtain ⟨f, vs, ns, hn, h⟩ := h j hj
    have hall :
        Composes .form (.trying b y.1 y.2 f) (o :: (us ++ (hs ++ (v :: fs ++ vs)))) (ahead ns j) :=
      .trying ho (by simpa using hb) hh h
    exact ⟨_, vs, ns, hn, by simpa using hall⟩

/-- What comes of the tokens after the body of an attempt and its catch clause. -/
theorem decided_finally (hB : Clause.block.Decided L) (ho : o.kind = .tryWord)
    (hb : Composes .block b us (ahead (hs ++ ts) .eof))
    (hh : Composes .catcher y hs (ahead ts .eof)) (he : Ended ts) (hL : ts.length ≤ L) :
    Verdict (((Clause.form.standard.next o).after us).after hs) ts := by
  have hv : Verdict (Clause.wordBlock .finallyWord).standard ts :=
    decided_wordBlock hB (by decide) _ he hL
  rw [ahead_append] at hb
  refine hv.map (fun fs w wl f hfs h => ⟨.trying b y.1 y.2 f, ?_⟩)
    (fun fs w wl cause hfs hr n hl => ?_) (fun fs w wl hfs h => ?_)
  all_goals
    rw [← ahead_eq_of_split hfs] at hb hh
    rw [← ahead_append] at hb
  · exact .trying ho hb hh h
  · simp only [List.length_append, List.length_cons] at hl
    refine refuses_formOf ho (refuses_tryOf ho ?_)
    apply refuses_bind (hb.accepted n (by omega))
    exact refuses_bind (hh.accepted n (by omega)) (refuses_first (hr n (by omega)))
  · exact completable_try_finally ho hb hh h

theorem decided_try (hB : Clause.block.Decided L) (ho : o.kind = .tryWord)
    (he : Ended ts) (hL : ts.length ≤ L) :
    Verdict (Clause.form.standard.next o) ts := by
  refine (hB ts he hL).bind (fun us u ul b hts hb => ?_) (fun us u ul cause _ hr n hl => ?_)
    (fun us u ul _ h => completable_try ho h)
  · rw [hts] at he hL
    rw [List.length_append] at hL
    have hrest := he.suffix
    refine (decided_catcher hB _ hrest (by omega)).bind (fun hs w wl y hhs hh => ?_)
      (fun hs w wl cause hhs hr n hl => ?_) (fun hs w wl hhs h => ?_)
    all_goals
      have hnext : ahead hs w.kind = u.kind := ahead_eq_of_split hhs
      rw [← hnext] at hb
    · have hlen := congrArg List.length hhs
      rw [List.length_append] at hlen
      rw [hhs] at hrest
      exact decided_finally hB ho (by simpa using hb) hh hrest.suffix (by omega)
    · simp only [List.length_append, List.length_cons] at hl
      refine refuses_formOf ho (refuses_tryOf ho ?_)
      exact refuses_bind (Composes.accepted hb n (by omega)) (refuses_first (hr n (by omega)))
    · exact completable_try_catch ho hb h
  · rw [List.length_cons] at hl
    exact refuses_formOf ho (refuses_tryOf ho (refuses_first (hr n (by omega))))

end Attempts

end FloScript.Parser
