import FloScript.Proofs.PartRefusal

/-! What comes of any tokens where a statement should stand. As with expressions, a verdict on the
statements in fewer tokens gives one on the statements in one token more. -/
namespace FloScript.Parser

variable {k word close : Kind} {t o : Token} {ts us vs ns : List Token}
  {cause : SourceFault} {L n : Nat} {S : Parser Node} {e : Node}

/-- When some more tokens are added, the tokens compose the clause before newlines and a token that
closes it. -/
def Clause.Completable (c : Clause) (us : List Token) : Prop :=
  ∀ k, k = .rbrace ∨ k = .eof → ∃ a vs ns, Newlines ns ∧ Composes c a (us ++ vs) (ahead ns k)

/-- How the parser of a clause refuses a token. -/
def Clause.Refused : Clause → List Token → Token → SourceFault → Prop
  | .statement, us, t, cause => ∀ n, us.length < n → Refuses (statementWithin n) us t cause
  | .form, us, t, cause => ∀ n, us.length ≤ n → Refuses (formOf (statementWithin n)) us t cause
  | .function, us, t, cause =>
    ∀ n, us.length ≤ n → Refuses (functionOf (statementWithin n)) us t cause
  | .block, us, t, cause => ∀ n, us.length < n → Refuses (blockOf (statementWithin n)) us t cause
  | .lines close, us, t, cause => ∀ S : Parser Node,
    (∀ s vs k, vs.length ≤ us.length → Composes .statement s vs k → Reads S vs k s) →
    (∀ vs u c, vs.length ≤ us.length → (∀ n, vs.length < n → Refuses (statementWithin n) vs u c) →
      Refuses S vs u c) →
    ∀ f, us.length < f → Refuses (itemsUntil close (lineOf S) f) us t cause
  | .wordBlock word, us, t, cause =>
    ∀ n, us.length ≤ n → Refuses (Parser.wordBlock word (statementWithin n)) us t cause
  | .catcher, us, t, cause => ∀ n, us.length ≤ n → Refuses (catchOf (statementWithin n)) us t cause

@[reducible] def Clause.standard (c : Clause) : Standard c.Carrier :=
  ⟨Composes c, c.Refused, c.Completable⟩

def Clause.Decided (c : Clause) (L : Nat) : Prop :=
  ∀ ts, Ended ts → ts.length ≤ L → Verdict c.standard ts

section Completions

variable {c : Clause} {a : c.Carrier}

theorem resumes_of_closing (hk : k = .rbrace ∨ k = .eof) : resumes k = false := by
  rcases hk with rfl | rfl <;> rfl

/-- A clause that has been read can be closed by a newline. -/
theorem Composes.completable (h : Composes c a us k) (hc : c.Closable) : c.Completable us := by
  intro j hj
  have hn : Newlines [sample .newline] := by simp [Newlines]
  have hat : j ≠ .atSign ∧ j ≠ .funcWord := by rcases hj with rfl | rfl <;> decide
  obtain ⟨ms, rest, hsplit, h⟩ :=
    h.absorbs (fun _ _ _ => hat) hc hn (by simp) (resumes_of_closing hj)
  rw [hsplit] at hn
  exact ⟨a, ms, rest, (List.forall_mem_append.mp hn).2, h⟩

theorem composes_emptyBlock : Composes .block [] [sample .lbrace, sample .rbrace] k :=
  .braces (o := sample .lbrace) (q := sample .rbrace) rfl newlines_nil (by decide) .nil rfl

/-- A block can be completed so that the token in front of it meets the same kind, or an opening
brace. -/
theorem Clause.Completable.block (h : Clause.block.Completable us) (j : Kind)
    (hk : k = .rbrace ∨ k = .eof) :
    ∃ b vs ns, Newlines ns ∧ Composes .block b (us ++ vs) (ahead ns k) ∧
      (ahead (us ++ vs) (ahead ns k) = ahead us j ∨ ahead (us ++ vs) (ahead ns k) = .lbrace) := by
  cases us with
  | nil => exact ⟨[], _, [], newlines_nil, composes_emptyBlock, .inr rfl⟩
  | cons u us =>
    obtain ⟨b, vs, ns, hn, h⟩ := h k hk
    exact ⟨b, vs, ns, hn, h, .inl rfl⟩

theorem Spells.beforeBrace {s : Shape} {p : Phrase s} {a : s.Carrier}
    {j : Kind} (h : Spells p a us j) (hk : k = j ∨ k = .lbrace) : Spells p a us k := by
  rcases hk with rfl | rfl
  · exact h
  · exact h.before rfl

end Completions

section Lines

/-- The parser reads statements in up to `m` tokens, and refuses what is refused after so many. -/
structure ParsesStatements (S : Parser Node) (m : Nat) : Prop where
  reads : ∀ s us k, us.length ≤ m → Composes .statement s us k → Reads S us k s
  refuses : ∀ us t cause, us.length ≤ m → Clause.statement.Refused us t cause → Refuses S us t cause

theorem parses_statementWithin (hn : us.length < n) :
    ParsesStatements (statementWithin n) us.length :=
  ⟨fun _ _ _ hl h => h.accepted n (by omega), fun _ _ _ hl h => h n (by omega)⟩

/-- The statements up to a closing token. -/
def lined (close : Kind) : Standard (List Node) where
  whole ss us k := k = close ∧ Composes (.lines close) ss us close
  refused := (Clause.lines close).Refused
  begun us := ∃ ss vs, Composes (.lines close) ss (us ++ vs) close

theorem refuses_lines (hne : ahead us t.kind ≠ close) (h : Refuses S us t cause) :
    Refuses (itemsUntil close (lineOf S) (n + 1)) us t cause := by
  rw [itemsUntil]
  apply refuses_currentKind
  rw [if_neg hne]
  exact refuses_first (refuses_first h)

/-- No statement begins with a token that closes lines. -/
theorem Composes.ahead_ne_closing (h : Composes .statement e us k)
    (hc : close = .rbrace ∨ close = .eof) :
    ahead us k ≠ close := by
  rcases h.opens with ho | ho
  · rw [ho]
    rcases hc with rfl | rfl <;> decide
  · refine ne_of_opensForm ho ?_
    rcases hc with rfl | rfl <;> rfl

theorem refuses_lines_later (hc : close = .rbrace ∨ close = .eof)
    (hs : Composes .statement e us (ahead (ns ++ vs) t.kind))
    (hS : Reads S us (ahead (ns ++ vs) t.kind) e) (hn : Newlines ns)
    (hv : ahead vs t.kind ≠ .newline) (h : Refuses (itemsUntil close (lineOf S) n) vs t cause) :
    Refuses (itemsUntil close (lineOf S) (n + 1)) (us ++ (ns ++ vs)) t cause := by
  have hne := hs.ahead_ne_closing hc
  rw [ahead_append] at hS
  have hline : Reads (lineOf S) (us ++ ns) (ahead vs t.kind) e :=
    reads_bind hS (reads_finish (reads_skipNewlines hn hv) reads_pure)
  rw [itemsUntil]
  apply refuses_currentKind
  rw [ahead_append, if_neg hne, ← List.append_assoc]
  exact refuses_bind hline (refuses_first h)

theorem begins_lines (hc : close = .rbrace ∨ close = .eof) (h : Clause.statement.Completable us) :
    (lined close).begun us := by
  obtain ⟨s, vs, ns, hn, h⟩ := h close hc
  refine ⟨[s], vs ++ ns, ?_⟩
  have hne : close ≠ .newline := by rcases hc with rfl | rfl <;> decide
  have hall : Composes (.lines close) [s] ((us ++ vs) ++ (ns ++ [])) close :=
    .cons (by simpa using h) hn hne .nil
  simpa using hall

theorem begins_lines_later (hc : close = .rbrace ∨ close = .eof)
    (hs : Composes .statement e us (ahead (ns ++ vs) k)) (hn : Newlines ns)
    (hv : ahead vs k ≠ .newline) (h : (lined close).begun vs) :
    (lined close).begun (us ++ (ns ++ vs)) := by
  have hne : close ≠ .newline := by rcases hc with rfl | rfl <;> decide
  cases vs with
  | nil =>
    cases ns with
    | nil =>
      -- the next statement has not been begun, so this one is completed instead
      simpa using begins_lines hc (hs.completable trivial)
    | cons n ns =>
      have hall : Composes (.lines close) [e] (us ++ (n :: ns ++ [])) close := .cons hs hn hne .nil
      exact ⟨[e], [], by simpa using hall⟩
  | cons v vs =>
    obtain ⟨ss, ws, h⟩ := h
    refine ⟨e :: ss, ws, ?_⟩
    have hall : Composes (.lines close) (e :: ss) (us ++ (ns ++ (v :: vs ++ ws))) close :=
      .cons (by simpa using hs) hn hv h
    simpa using hall

theorem decided_lines (hd : Clause.statement.Decided L)
    (hc : close = .rbrace ∨ close = .eof) (he : Ended ts) (hL : ts.length ≤ L) :
    Verdict (lined close) ts := by
  generalize hm : ts.length = m
  induction m using Nat.strongRecOn generalizing ts with
  | ind m ih =>
    by_cases hk : ahead ts .eof = close
    · obtain ⟨t, tl, rfl⟩ := he.exists_cons
      exact .reads [] t tl rfl ⟨hk, .nil⟩
    refine (hd ts he hL).bind (fun us u ul s hts h => ?_)
      (fun us u ul cause hts hr S _ hS f hf => ?_) (fun us u ul _ hcomp => begins_lines hc hcomp)
    · have hpos := List.length_pos_iff.mpr (Composes.ne_nil h rfl)
      rw [hts] at he
      obtain ⟨ns, hsplit, hn, hnl, hrest⟩ := dropNewlines_spec he.suffix
      have hlen := congrArg List.length hsplit
      have hlen' := congrArg List.length hts
      simp only [List.length_append, List.length_cons] at hlen hlen'
      replace h : Composes .statement s us (ahead (u :: ul) .eof) := h
      rw [hsplit] at h ⊢
      refine Verdict.shift ((ih _ (by omega) hrest (by omega) rfl).map
        (fun vs w wl ss hvs hss => ⟨s :: ss, hss.1, ?_⟩)
        (fun vs w wl cause hvs hr S hread hS f hf => ?_) (fun vs w wl hvs hb => ?_))
      all_goals
        rw [ahead_append] at h
        rw [← ahead_eq_of_split hvs] at h hnl
        rw [← ahead_append] at h
      · obtain ⟨hw, hss⟩ := hss
        rw [hw] at h hnl
        exact .cons h hn hnl hss
      · simp only [List.length_append] at hread hS hf
        obtain ⟨g, rfl⟩ : ∃ g, f = g + 1 := ⟨f - 1, by omega⟩
        refine refuses_lines_later hc h (hread _ _ _ (by omega) h) hn hnl (hr S ?_ ?_ g (by omega))
        · exact fun _ _ _ hl => hread _ _ _ (by omega)
        · exact fun _ _ _ hl => hS _ _ _ (by omega)
      · exact begins_lines_later hc h hn hnl hb
    · rw [← ahead_eq_of_split hts] at hk
      obtain ⟨g, rfl⟩ : ∃ g, f = g + 1 := ⟨f - 1, by omega⟩
      exact refuses_lines hk (hS _ _ _ (Nat.le_refl _) hr)

end Lines

section Blocks

theorem refuses_blockOf_lines (ho : o.kind = .lbrace) (hn : Newlines ns)
    (hu : ahead us t.kind ≠ .newline)
    (h : ∀ f, us.length < f → Refuses (itemsUntil .rbrace (lineOf S) f) us t cause) :
    Refuses (blockOf S) (o :: (ns ++ us)) t cause := by
  unfold blockOf
  apply refuses_step (reads_accept ho)
  apply refuses_bind (reads_skipNewlines hn hu)
  exact refuses_closedBy fun f hf => refuses_first (h f hf)

theorem refuses_blockOf_single (hk : ahead us t.kind ≠ .lbrace) (h : Refuses S us t cause) :
    Refuses (blockOf S) us t cause := by
  unfold blockOf
  exact refuses_peek (reads_accept_other hk) (refuses_first h)

theorem completable_braces (ho : o.kind = .lbrace) (hn : Newlines ns) (hu : ahead us k ≠ .newline)
    (h : (lined .rbrace).begun us) : Clause.block.Completable (o :: (ns ++ us)) := by
  intro j _
  cases us with
  | nil =>
    have hall : Composes .block [] (o :: (ns ++ ([] ++ [sample .rbrace]))) j :=
      .braces ho hn (by decide) .nil rfl
    exact ⟨[], [sample .rbrace], [], newlines_nil, by simpa using hall⟩
  | cons u us =>
    obtain ⟨ss, vs, h⟩ := h
    have hall : Composes .block ss (o :: (ns ++ ((u :: us ++ vs) ++ [sample .rbrace]))) j :=
      .braces ho hn hu h rfl
    exact ⟨ss, vs ++ [sample .rbrace], [], newlines_nil, by simpa using hall⟩

theorem completable_single (hk : ahead us k ≠ .lbrace) (h : Clause.statement.Completable us) :
    Clause.block.Completable us := by
  intro j hj
  cases us with
  | nil => exact ⟨[], _, [], newlines_nil, composes_emptyBlock⟩
  | cons u us =>
    obtain ⟨s, vs, ns, hn, h⟩ := h j hj
    exact ⟨[s], vs, ns, hn, .single h hk⟩

theorem decided_block (hd : Clause.statement.Decided L) : Clause.block.Decided L := by
  intro ts he hL
  by_cases hk : ahead ts .eof = .lbrace
  · obtain ⟨o, tl, rfl⟩ := he.exists_cons
    replace hk : o.kind = .lbrace := hk
    have hrest := he.tail (by simp [hk])
    obtain ⟨ns, hsplit, hn, hnl, hlast⟩ := dropNewlines_spec hrest
    have hlen := congrArg List.length hsplit
    simp only [List.length_append, List.length_cons] at hlen hL
    rw [hsplit]
    refine .step
      (Verdict.shift
        ((decided_lines hd (.inl rfl) hlast (by omega)).bind (fun us u ul ss hts h => ?_)
          (fun us u ul cause hts hr n hl => ?_) (fun us u ul hts hb => ?_)))
    · rw [hts] at hlast
      obtain ⟨hu, h⟩ := h
      obtain ⟨w, wl, rfl⟩ := (hlast.suffix.tail (by simp [hu])).exists_cons
      rw [← ahead_eq_of_split hts, hu] at hnl
      exact .reads [u] w wl rfl (.braces hk hn hnl h hu)
    · rw [← ahead_eq_of_split hts] at hnl
      simp only [List.length_append, List.length_cons] at hl
      have hS : ParsesStatements (statementWithin n) us.length := parses_statementWithin (by omega)
      exact refuses_blockOf_lines hk hn hnl (hr _ hS.reads hS.refuses)
    · rw [← ahead_eq_of_split hts] at hnl
      exact completable_braces hk hn hnl hb
  · refine (hd ts he hL).map (fun us u ul s hts h => ⟨[s], .single h ?_⟩)
      (fun us u ul cause hts hr n hl => ?_) (fun us u ul hts hcomp => ?_)
    all_goals rw [← ahead_eq_of_split hts] at hk
    · exact hk
    · exact refuses_blockOf_single hk (hr n hl)
    · exact completable_single hk hcomp

theorem refuses_wordBlock (hn : Newlines ns) (ho : o.kind = word) (hw : word ≠ .newline)
    (h : Refuses (blockOf S) us t cause) : Refuses (wordBlock word S) (ns ++ o :: us) t cause := by
  unfold wordBlock
  apply refuses_bind (reads_skipNewlines hn (by rwa [ahead_cons, ho]))
  exact refuses_step (reads_accept ho) (refuses_first h)

theorem decided_wordBlock (hB : Clause.block.Decided L) (hw : word ≠ .newline ∧ word ≠ .eof) :
    (Clause.wordBlock word).Decided L := by
  intro ts he hL
  obtain ⟨ns, hsplit, hn, hnl, hrest⟩ := dropNewlines_spec he
  have hlen := congrArg List.length hsplit
  rw [hsplit]
  apply Verdict.shift
  obtain ⟨o, ol, ho⟩ := hrest.exists_cons
  rw [ho] at hnl hrest hlen ⊢
  simp only [List.length_append, List.length_cons] at hlen
  by_cases hk : o.kind = word
  · refine .step ((hB ol (hrest.tail (by rw [hk]; exact hw.2)) (by omega)).map
      (fun us u ul b _ h => ⟨some b, .after hn hk h⟩) (fun us u ul cause _ hr n hl => ?_)
        (fun us u ul _ hcomp j hj => ?_))
    · simp only [List.length_append, List.length_cons] at hl
      exact refuses_wordBlock hn hk hw.1 (hr n (by omega))
    · obtain ⟨b, vs, ms, hm, hcomp⟩ := hcomp j hj
      have hall := Composes.after hn hk hcomp
      exact ⟨some b, vs, ms, hm, by simpa using hall⟩
  · exact .here (.without hn hnl hk)

end Blocks

section Names

variable {name : Option String} {xs : List Token}

theorem exists_namePart (he : Ended ts) :
    ∃ name xs rest, ts = xs ++ rest ∧ Ended rest ∧ NamePart name xs (ahead rest .eof) := by
  obtain ⟨x, xl, rfl⟩ := he.exists_cons
  by_cases hx : x.kind = .identifier
  · exact ⟨some x.text, [x], xl, rfl, he.tail (by simp [hx]), .given hx⟩
  · exact ⟨none, [], x :: xl, rfl, he, .absent hx⟩

theorem NamePart.before {j : Kind} (h : NamePart name xs k) (hj : j ≠ .identifier) :
    NamePart name xs j := by
  cases h with
  | given hx => exact .given hx
  | absent => exact .absent hj

theorem NamePart.beforeBrace {j : Kind} (h : NamePart name xs k) (hj : j = k ∨ j = .lbrace) :
    NamePart name xs j := by
  rcases hj with rfl | rfl
  · exact h
  · exact h.before (by decide)

theorem refuses_catchOf (hn : Newlines ns) (ho : o.kind = .catchWord)
    (hx : NamePart name xs (ahead us t.kind)) (h : Refuses (blockOf S) us t cause) :
    Refuses (catchOf S) (ns ++ o :: (xs ++ us)) t cause := by
  unfold catchOf
  apply refuses_bind (reads_skipNewlines hn (by simp [ho]))
  apply refuses_step (reads_accept ho)
  exact refuses_bind hx.reads (refuses_first h)

theorem completable_catcher (hn : Newlines ns) (ho : o.kind = .catchWord)
    (hx : NamePart name xs (ahead us k)) (h : Clause.block.Completable us) :
    Clause.catcher.Completable (ns ++ o :: (xs ++ us)) := by
  intro j hj
  obtain ⟨b, vs, ms, hm, h, hnext⟩ := h.block k hj
  have hall := Composes.caught hn ho (hx.beforeBrace hnext) h
  exact ⟨_, vs, ms, hm, by simpa using hall⟩

theorem decided_catcher (hB : Clause.block.Decided L) : Clause.catcher.Decided L := by
  intro ts he hL
  obtain ⟨ns, hsplit, hn, hnl, hrest⟩ := dropNewlines_spec he
  have hlen := congrArg List.length hsplit
  rw [hsplit]
  apply Verdict.shift
  obtain ⟨o, ol, ho⟩ := hrest.exists_cons
  rw [ho] at hnl hrest hlen ⊢
  simp only [List.length_append, List.length_cons] at hlen
  by_cases hk : o.kind = .catchWord
  · obtain ⟨name, xs, rest, rfl, hlast, hx⟩ := exists_namePart (hrest.tail (by simp [hk]))
    rw [List.length_append] at hlen
    refine .step
      (Verdict.shift ((hB rest hlast (by omega)).map (fun us u ul b hts h => ⟨(name, some b), ?_⟩)
        (fun us u ul cause hts hr n hl => ?_) (fun us u ul hts hcomp => ?_)))
    all_goals rw [← ahead_eq_of_split hts] at hx
    · exact .caught hn hk hx h
    · simp only [List.length_append, List.length_cons] at hl
      exact refuses_catchOf hn hk hx (hr n (by omega))
    · exact completable_catcher hn hk hx hcomp
  · exact .here (.uncaught hn hnl hk)

end Names

end FloScript.Parser
