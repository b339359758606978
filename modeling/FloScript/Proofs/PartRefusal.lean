import FloScript.Proofs.JoinedPrograms
import FloScript.Proofs.PhraseRefusal

/-! What comes of the tokens where a part of a statement should stand that has no statements in it:
a return, the branches behind an arrow, items in parentheses, decorators. -/
namespace FloScript.Parser

variable {k : Kind} {t o q : Token} {ts us vs ns tl : List Token} {cause : SourceFault} {e : Node}

section Returns

def returned : Standard Node := ⟨Returns, Refuses returnStatement, Begins Returns⟩

theorem refuses_returnStatement (ho : o.kind = .returnWord) (hn : ahead us t.kind ≠ .newline)
    (hs : ahead us t.kind ≠ .semicolon) (he : ahead us t.kind ≠ .eof)
    (h : Refuses expression us t cause) :
    Refuses returnStatement (o :: us) t cause := by
  unfold returnStatement
  rw [discard_bind]
  apply refuses_step (reads_expect ho)
  apply refuses_currentKind
  rw [if_neg (by simp [hn, hs, he])]
  exact refuses_first h

theorem begins_returned (ho : o.kind = .returnWord) (h : Phrase.expression.Completable us) :
    Begins Returns (o :: us) := by
  obtain ⟨e, vs, h⟩ := h
  exact ⟨_, vs, fun k hk => .value ho (h k hk)⟩

theorem decided_returned (ho : o.kind = .returnWord) (he : Ended (o :: ts)) :
    Verdict returned (o :: ts) := by
  have hrest : Ended ts := he.tail (by simp [ho])
  by_cases hk : ahead ts .eof = .newline ∨ ahead ts .eof = .semicolon ∨ ahead ts .eof = .eof
  · obtain ⟨u, ul, rfl⟩ := hrest.exists_cons
    exact .reads [o] u ul rfl (.nothing ho hk)
  · simp only [not_or] at hk
    refine .step
      ((decided_expression _ ts hrest (Nat.le_refl _)).map (fun us u ul e _ h => ⟨_, .value ho h⟩)
        (fun us u ul cause hts hr => ?_) (fun us u ul _ hcomp => begins_returned ho hcomp))
    rw [← ahead_eq_of_split hts] at hk
    exact refuses_returnStatement ho hk.1 hk.2.1 hk.2.2 (refuses_expression hr)

end Returns

section Branches

def branched : Standard (List Node) := ⟨ArrowBranch, Refuses branch, Begins ArrowBranch⟩

theorem begins_branched_returning (h : Begins Returns us) : Begins ArrowBranch us := by
  obtain ⟨n, vs, h⟩ := h
  exact ⟨[n], vs, fun k hk => .returning (h k hk)⟩

theorem begins_branched (h : Phrase.expression.Completable us) : Begins ArrowBranch us := by
  obtain ⟨e, vs, h⟩ := h
  exact ⟨[e], vs, fun k hk => .expression (h k hk)⟩

theorem refuses_branch_returning (hk : ahead us t.kind = .returnWord)
    (h : Refuses returnStatement us t cause) :
    Refuses branch us t cause := by
  unfold branch
  apply refuses_currentKind
  rw [if_pos hk]
  exact refuses_first h

theorem refuses_branch (hk : ahead us t.kind ≠ .returnWord) (h : Refuses expression us t cause) :
    Refuses branch us t cause := by
  unfold branch
  apply refuses_currentKind
  rw [if_neg hk]
  exact refuses_first h

theorem decided_branch (he : Ended ts) : Verdict branched ts := by
  by_cases hk : ahead ts .eof = .returnWord
  · obtain ⟨o, tl, rfl⟩ := he.exists_cons
    refine (decided_returned hk he).map (fun us u ul n _ h => ⟨[n], .returning h⟩)
      (fun us u ul cause hts hr => ?_) (fun us u ul _ hb => begins_branched_returning hb)
    rw [← ahead_eq_of_split hts] at hk
    exact refuses_branch_returning hk hr
  · refine (decided_expression _ ts he (Nat.le_refl _)).map
      (fun us u ul e _ h => ⟨[e], .expression h⟩) (fun us u ul cause hts hr => ?_)
      (fun us u ul _ hb => begins_branched hb)
    rw [← ahead_eq_of_split hts] at hk
    exact refuses_branch hk (refuses_expression hr)

def arrowElsed : Standard (Option (List Node)) := ⟨ArrowElse, Refuses arrowElse, Begins ArrowElse⟩

theorem refuses_arrowElse (hn : Newlines ns) (hl : o.kind = .elseWord) (hq : q.kind = .arrow)
    (h : Refuses branch us t cause) : Refuses arrowElse (ns ++ o :: q :: us) t cause := by
  unfold arrowElse
  apply refuses_bind (reads_skipNewlines hn (by simp [hl]))
  apply refuses_step (reads_accept hl)
  apply refuses_step (reads_accept hq)
  exact refuses_first h

theorem decided_arrowElse (he : Ended ts) : Verdict arrowElsed ts := by
  obtain ⟨ns, hsplit, hn, ha, hrest⟩ := dropNewlines_spec he
  rw [hsplit]
  apply Verdict.shift
  obtain ⟨l, ll, hl⟩ := hrest.exists_cons
  rw [hl] at ha hrest ⊢
  by_cases hw : l.kind = .elseWord
  · obtain ⟨q, ql, rfl⟩ := (hrest.tail (by simp [hw])).exists_cons
    by_cases hq : q.kind = .arrow
    · have hlast : Ended ql := (hrest.tail (by simp [hw])).tail (by simp [hq])
      refine .step
        (.step ((decided_branch hlast).map (fun us u ul b _ h => ⟨some b, .given hn hw hq h⟩)
          (fun us u ul cause _ hr => refuses_arrowElse hn hw hq hr) (fun us u ul _ hb => ?_)))
      obtain ⟨b, vs, hb⟩ := hb
      refine ⟨some b, vs, fun k hk => ?_⟩
      have hall := ArrowElse.given hn hw hq (hb k hk)
      simpa using hall
    · exact .reads [l] q ql rfl (.dropped hn hw hq)
  · exact .here (.absent hn ha hw)

end Branches

section Items

variable {s : Shape} {item : Phrase s} {p : Parser s.Carrier}

def optional (item : Phrase s) (p : Parser s.Carrier) : Standard (List s.Carrier) :=
  ⟨ItemsPart item, Refuses (optionalItems p), Begins (ItemsPart item)⟩

theorem refuses_optionalItems (ho : o.kind = .lparen)
    (h : Refuses (closedBy .rparen (commaAfter p)) us t cause) :
    Refuses (optionalItems p) (o :: us) t cause := by
  unfold optionalItems
  exact refuses_step (reads_accept ho) h

theorem decided_optionalItems (hi : item.Listed) (hc : item.ClosedBy .rparen)
    (hd : ∀ L, item.Decided L) (hp : ∀ m, item.Parses p m) (he : Ended ts) :
    Verdict (optional item p) ts := by
  obtain ⟨o, tl, rfl⟩ := he.exists_cons
  by_cases ho : o.kind = .lparen
  · have hv : Verdict (Phrase.items .rparen false item).standard tl :=
      decided_items hi hc (hd _) (he.tail (by simp [ho])) (Nat.le_refl _) (by simp)
    refine .step (hv.map (fun us u ul xs _ h => ⟨xs, .given ho h⟩)
      (fun us u ul cause _ hr => refuses_optionalItems ho ((hp _).refuses_items hr))
        (fun us u ul _ hb => ?_))
    obtain ⟨xs, vs, hb⟩ := hb
    exact ⟨xs, vs, fun k hk => .given ho (hb k hk)⟩
  · exact .reads [] o tl rfl (.absent ho)

end Items

section Decorators

/-- Decorators one after the other. Of those that have been begun there is at least one. -/
def decorating : Standard (List Node) where
  whole := Decorators
  refused us t cause := ∀ n, us.length < n → Refuses (decorators n) us t cause
  begun us := us ≠ [] ∧ ∃ d ds vs, ∀ k, k = .rbrace ∨ k = .eof → Decorators (d :: ds) (us ++ vs) k

variable {n : Nat} {a x : Token} {xs : List Node}

theorem refuses_decorators (ha : a.kind = .atSign) (h : Refuses decoratorBody us t cause) :
    Refuses (decorators (n + 1)) (a :: us) t cause := by
  rw [decorators]
  exact refuses_step (reads_accept ha) (refuses_first h)

theorem refuses_decoratorBody_name (h : t.kind ≠ .identifier) :
    Refuses decoratorBody [] t (.expected .identifier t.kind) :=
  refuses_first (refuses_expect h)

theorem refuses_decoratorBody_items (hx : x.kind = .identifier)
    (h : Refuses (optionalItems expression) us t cause) :
    Refuses decoratorBody (x :: us) t cause := by
  rw [decoratorBody_eq]
  exact refuses_step (reads_expect hx) (refuses_first h)

theorem refuses_decorators_later (ha : a.kind = .atSign) (hx : x.kind = .identifier)
    (hs : ItemsPart .expression xs us (ahead (ns ++ vs) t.kind)) (hn : Newlines ns)
    (hv : ahead vs t.kind ≠ .newline) (h : Refuses (decorators n) vs t cause) :
    Refuses (decorators (n + 1)) (a :: x :: (us ++ (ns ++ vs))) t cause := by
  rw [ahead_append] at hs
  have hbody : Reads decoratorBody (x :: (us ++ ns)) (ahead vs t.kind) (.decorator x.text xs) := by
    rw [decoratorBody_eq]
    apply reads_step (reads_expect hx)
    apply reads_bind (hs.reads fun _ _ _ h => h.reads)
    exact reads_finish (reads_skipNewlines hn hv) reads_pure
  have hrest : Refuses (do return Node.decorator x.text xs :: (← decorators n)) vs t cause :=
    refuses_first h
  have hall := refuses_bind (f := fun d => do return d :: (← decorators n)) hbody hrest
  rw [decorators]
  apply refuses_step (reads_accept ha)
  simpa using hall

/-- A decorator with nothing after it. -/
theorem decorators_single (ha : a.kind = .atSign) (hx : x.kind = .identifier)
    (hs : ItemsPart .expression xs us k) (hk : k = .rbrace ∨ k = .eof) :
    Decorators [.decorator x.text xs] (a :: x :: us) k := by
  have hnl : k ≠ .newline := by rcases hk with rfl | rfl <;> decide
  have hat : k ≠ .atSign := by rcases hk with rfl | rfl <;> decide
  have h : Decorators [.decorator x.text xs] (a :: x :: (us ++ ([] ++ []))) k :=
    .cons ha hx hs newlines_nil hnl (.nil hat)
  simpa using h

theorem continues_of_closing (hk : k = .rbrace ∨ k = .eof) : k.continues = false := by
  rcases hk with rfl | rfl <;> rfl

theorem begins_decorators (ha : a.kind = .atSign) (hx : x.kind = .identifier)
    (h : Begins (ItemsPart .expression) us) : decorating.begun (a :: x :: us) := by
  obtain ⟨xs, vs, h⟩ := h
  refine ⟨by simp, .decorator x.text xs, [], vs, fun k hk => ?_⟩
  have hall := decorators_single ha hx (h k (continues_of_closing hk)) hk
  simpa using hall

theorem begins_decorators_later (ha : a.kind = .atSign) (hx : x.kind = .identifier)
    (hs : ItemsPart .expression xs us (ahead (ns ++ vs) k)) (hn : Newlines ns)
    (hv : ahead vs k ≠ .newline) (h : decorating.begun vs) :
    decorating.begun (a :: x :: (us ++ (ns ++ vs))) := by
  obtain ⟨hne, d, ds, ws, h⟩ := h
  refine ⟨by simp, .decorator x.text xs, d :: ds, ws, fun j hj => ?_⟩
  have hs' : ItemsPart .expression xs us (ahead (ns ++ (vs ++ ws)) j) := by
    rwa [ahead_append, ahead_filled hne, ← ahead_append]
  have hall := Decorators.cons ha hx hs' hn (by rwa [ahead_filled hne]) (h j hj)
  simpa using hall

/-- What comes of the tokens after one decorator, by what comes of the decorators there. -/
theorem decided_decorators_later (ha : a.kind = .atSign) (hx : x.kind = .identifier)
    (hs : ItemsPart .expression xs us (ahead ts .eof)) (he : Ended ts)
    (hv : Verdict decorating (dropNewlines ts)) :
    Verdict (((decorating.next a).next x).after us) ts := by
  obtain ⟨ns, hsplit, hn, hnl, -⟩ := dropNewlines_spec he
  rw [hsplit] at hs ⊢
  refine Verdict.shift (hv.map (fun vs w wl ds hvs h => ⟨.decorator x.text xs :: ds, ?_⟩)
    (fun vs w wl cause hvs hr n hl => ?_) (fun vs w wl hvs hb => ?_))
  all_goals
    rw [ahead_append] at hs
    rw [← ahead_eq_of_split hvs] at hs hnl
    rw [← ahead_append] at hs
  · exact .cons ha hx hs hn hnl h
  · simp only [List.length_append, List.length_cons] at hl
    obtain ⟨g, rfl⟩ : ∃ g, n = g + 1 := ⟨n - 1, by omega⟩
    exact refuses_decorators_later ha hx hs hn hnl (hr g (by omega))
  · exact begins_decorators_later ha hx hs hn hnl hb

theorem decided_decorators (he : Ended ts) : Verdict decorating ts := by
  generalize hm : ts.length = m
  induction m using Nat.strongRecOn generalizing ts with
  | ind m ih =>
    obtain ⟨a, tl, rfl⟩ := he.exists_cons
    by_cases ha : a.kind = .atSign
    · have hrest := he.tail (by simp [ha])
      obtain ⟨x, xl, rfl⟩ := hrest.exists_cons
      by_cases hx : x.kind = .identifier
      · have hlast := hrest.tail (by simp [hx])
        have hc : Phrase.expression.ClosedBy .rparen := closedBy_expression rfl (by decide) rfl
        have hv : Verdict (optional .expression expression) xl :=
          decided_optionalItems .expression hc decided_expression parses_expression hlast
        refine .step
          (.step (hv.bind (fun us u ul xs hts hs => ?_) (fun us u ul cause _ hr n hl => ?_)
            (fun us u ul _ hb => begins_decorators ha hx hb)))
        · rw [hts] at hlast hm
          obtain ⟨ns, hsplit, -, -, hd⟩ := dropNewlines_spec hlast.suffix
          have hlen := congrArg List.length hsplit
          simp only [List.length_append, List.length_cons] at hlen hm
          exact decided_decorators_later ha hx hs hlast.suffix (ih _ (by omega) hd rfl)
        · obtain ⟨g, rfl⟩ : ∃ g, n = g + 1 := ⟨n - 1, by omega⟩
          exact refuses_decorators ha (refuses_decoratorBody_items hx hr)
      · have hr : decorating.refused [a] x (.expected .identifier x.kind) := by
          intro n hl
          obtain ⟨g, rfl⟩ : ∃ g, n = g + 1 := ⟨n - 1, by omega⟩
          exact refuses_decorators ha (refuses_decoratorBody_name hx)
        refine .refuses [a] x xl rfl hr
          ⟨by simp, .decorator (sample .identifier).text [], [], [sample .identifier],
            fun k hk => ?_⟩
        have hnone : ItemsPart .expression [] [] k :=
          .absent (by rcases hk with rfl | rfl <;> decide)
        exact decorators_single ha rfl hnone hk
    · exact .reads [] a tl rfl (.nil ha)

end Decorators

end FloScript.Parser
