import FloScript.Proofs.ClauseEnds

/-! What clashes with the end of a clause changes what the clause is read as: a brace is taken for
the value of a bare return, and a function or another decorator is taken by the decorators in front
of it. -/
namespace FloScript.Parser

section Giving

variable {α β : Type} {p : Parser α} {f : α → Parser β} {a : α} {P : α → Prop}
  {Q : β → Prop} {r u : Token} {us vs tl : List Token}

/-- What the parser reads where these tokens and the tail stand, if it reads anything, has the
property. -/
def Gives (p : Parser α) (us tail : List Token) (P : α → Prop) : Prop :=
  ∀ a rest, p (us ++ tail) = .ok a rest → P a

theorem gives_bind (hp : Reads p us (ahead vs r.kind) a) (hf : Gives (f a) vs (r :: tl) Q) :
    Gives (p >>= f) (us ++ vs) (r :: tl) Q := by
  intro b rest h
  obtain ⟨s, sl, hs, hk⟩ := exists_head vs tl rfl
  rw [List.append_assoc, hs, bind_of_ok (hp s sl hk), ← hs] at h
  exact hf b rest h

theorem gives_peek (hp : Reads p [] (ahead us r.kind) a) (hf : Gives (f a) us (r :: tl) Q) :
    Gives (p >>= f) us (r :: tl) Q := by
  have h : Gives (p >>= f) ([] ++ us) (r :: tl) Q := gives_bind hp hf
  exact h

theorem gives_step (hp : Reads p [u] (ahead us r.kind) a) (hf : Gives (f a) us (r :: tl) Q) :
    Gives (p >>= f) (u :: us) (r :: tl) Q := by
  have h : Gives (p >>= f) ([u] ++ us) (r :: tl) Q := gives_bind hp hf
  exact h

theorem gives_currentKind {g : Kind → Parser β} (h : Gives (g (ahead us r.kind)) us (r :: tl) Q) :
    Gives (currentKind >>= g) us (r :: tl) Q := by
  intro b rest hr
  obtain ⟨s, sl, hs, hk⟩ := exists_head us tl rfl
  have hc : currentKind (s :: sl) = .ok (ahead us r.kind) (s :: sl) := by
    rw [← hk]
    rfl
  rw [hs, bind_of_ok hc, ← hs] at hr
  exact h b rest hr

theorem gives_first (hp : Gives p us tl P) (hf : ∀ a ts b rest, P a → f a ts = .ok b rest → Q b) :
    Gives (p >>= f) us tl Q := by
  intro b rest h
  obtain ⟨a, ts, ha, hb⟩ := bind_eq_ok.mp h
  exact hf a ts b rest (hp a ts ha) hb

theorem gives_map {g : α → β} (hp : Gives p us tl P) (hg : ∀ a, P a → Q (g a)) :
    Gives (do return g (← p)) us tl Q := by
  refine gives_first hp ?_
  intro a ts b rest ha h
  obtain ⟨rfl, -⟩ := pure_eq_ok.mp h
  exact hg a ha

end Giving

section Forms

variable {S : Parser Node} {c : Node} {b : List Node}
  {no h f : Option (List Node)} {x : Option String} {i o r t : Token}
  {cs us vs hs fs ns tl : List Token} {k : Kind} {P : Node → Prop}

theorem gives_returnStatement (hr : r.kind = .returnWord) (ht : t.kind = .rbrace) :
    Gives returnStatement [r] (t :: tl) (· ≠ .returning none) := by
  unfold returnStatement
  rw [discard_bind]
  refine gives_step (reads_expect hr) ?_
  refine gives_currentKind ?_
  rw [ahead_nil, if_neg (by simp [ht])]
  intro n rest h hn
  obtain ⟨e, ts, -, h⟩ := bind_eq_ok.mp h
  cases hn
  cases (pure_eq_ok.mp h).1

theorem gives_branch (hr : r.kind = .returnWord) (ht : t.kind = .rbrace) :
    Gives branch [r] (t :: tl) (· ≠ [.returning none]) := by
  unfold branch
  refine gives_currentKind ?_
  rw [ahead_cons, if_pos hr]
  refine gives_map (gives_returnStatement hr ht) ?_
  intro n hn h
  exact hn (List.singleton_inj.mp h)

theorem gives_ifOf_arrow (hi : i.kind = .ifWord)
    (hc : Spells .expression c cs .arrow) (ho : o.kind = .arrow) (h : Gives (do
      let first ← branch
      return Node.conditional c first (← arrowElse)) us (t :: tl) P) :
    Gives (ifOf S) (i :: (cs ++ o :: us)) (t :: tl) P := by
  unfold ifOf
  rw [discard_bind]
  refine gives_step (reads_expect hi) ?_
  refine gives_bind (by rw [ahead_cons, ho]; exact hc.reads) ?_
  refine gives_step (reads_accept ho) ?_
  simp only [if_true]
  exact h

theorem gives_arrowReturn (hi : i.kind = .ifWord)
    (hc : Spells .expression c cs .arrow) (ho : o.kind = .arrow) (hr : r.kind = .returnWord)
    (ht : t.kind = .rbrace) :
    Gives (ifOf S) (i :: (cs ++ [o, r])) (t :: tl) (· ≠ .conditional c [.returning none] no) := by
  refine gives_ifOf_arrow hi hc ho (gives_first (gives_branch hr ht) ?_)
  rintro b ts s rest hb h rfl
  obtain ⟨no', _, -, h⟩ := bind_eq_ok.mp h
  cases (pure_eq_ok.mp h).1
  exact hb rfl

theorem gives_elseReturn {l q : Token} (hi : i.kind = .ifWord) (hc : Spells .expression c cs .arrow)
    (ho : o.kind = .arrow) (hb : ArrowBranch b us (ahead ns .elseWord)) (hn : Newlines ns)
    (hl : l.kind = .elseWord) (hq : q.kind = .arrow) (hr : r.kind = .returnWord)
    (ht : t.kind = .rbrace) :
    Gives (ifOf S) (i :: (cs ++ o :: (us ++ (ns ++ [l, q, r])))) (t :: tl)
      (· ≠ .conditional c b (some [.returning none])) := by
  have hb' : ArrowBranch b us (ahead (ns ++ [l, q, r]) t.kind) := by simpa [hl] using hb
  have helse : Gives arrowElse (ns ++ [l, q, r]) (t :: tl) (· ≠ some [.returning none]) := by
    unfold arrowElse
    refine gives_bind (reads_skipNewlines hn (by simp [hl])) ?_
    refine gives_step (reads_accept hl) (gives_step (reads_accept hq) ?_)
    exact gives_map (gives_branch hr ht) (by simp)
  exact gives_ifOf_arrow hi hc ho (gives_bind hb'.reads (gives_map helse (by simp)))

theorem gives_ifOf_block (hi : i.kind = .ifWord) (hc : Spells .expression c cs (ahead us t.kind))
    (hk : ahead us t.kind ≠ .arrow)
    (h : Gives (do
      let first ← blockOf S
      return Node.conditional c first (← wordBlock .elseWord S)) us (t :: tl) P) :
    Gives (ifOf S) (i :: (cs ++ us)) (t :: tl) P := by
  unfold ifOf
  rw [discard_bind]
  refine gives_step (reads_expect hi) ?_
  refine gives_bind hc.reads ?_
  refine gives_peek (reads_accept_other hk) ?_
  simp only [Bool.false_eq_true, if_false]
  exact h

theorem gives_thenBlock (hi : i.kind = .ifWord) (hc : Spells .expression c cs (ahead us t.kind))
    (hk : ahead us t.kind ≠ .arrow) (h : Gives (blockOf S) us (t :: tl) (· ≠ b)) :
    Gives (ifOf S) (i :: (cs ++ us)) (t :: tl) (· ≠ .conditional c b no) := by
  refine gives_ifOf_block hi hc hk (gives_first h ?_)
  rintro b' ts s rest hb h rfl
  obtain ⟨no', _, -, h⟩ := bind_eq_ok.mp h
  cases (pure_eq_ok.mp h).1
  exact hb rfl

theorem gives_elseBlock (hi : i.kind = .ifWord)
    (hc : Spells .expression c cs (ahead (us ++ vs) t.kind)) (hk : ahead (us ++ vs) t.kind ≠ .arrow)
    (hb : Reads (blockOf S) us (ahead vs t.kind) b)
    (h : Gives (wordBlock .elseWord S) vs (t :: tl) (· ≠ no)) :
    Gives (ifOf S) (i :: (cs ++ (us ++ vs))) (t :: tl) (· ≠ .conditional c b no) :=
  gives_ifOf_block hi hc hk (gives_bind hb (gives_map h (by simp)))

theorem gives_whileOf (hw : i.kind = .whileWord) (hc : Spells .expression c cs (ahead us t.kind))
    (h : Gives (blockOf S) us (t :: tl) (· ≠ b)) :
    Gives (whileOf S) (i :: (cs ++ us)) (t :: tl) (· ≠ .whileLoop c b) := by
  unfold whileOf
  rw [discard_bind]
  exact gives_step (reads_expect hw) (gives_bind hc.reads (gives_map h (by simp)))

theorem gives_forOf {x : Token} (hf : i.kind = .forWord) (hx : x.kind = .identifier)
    (hc : Spells .expression c cs (ahead us t.kind)) (h : Gives (blockOf S) us (t :: tl) (· ≠ b)) :
    Gives (forOf S) (i :: x :: (cs ++ us)) (t :: tl) (· ≠ .forLoop x.text c b) := by
  unfold forOf
  rw [discard_bind]
  refine gives_step (reads_expect hf) (gives_step (reads_expect hx) ?_)
  exact gives_bind hc.reads (gives_map h (by simp))

theorem gives_tryOf (ht : i.kind = .tryWord)
    (h : Gives (do
      let body ← blockOf S
      let (caught, handler) ← catchOf S
      let final ← wordBlock .finallyWord S
      return Node.trying body caught handler final) us (t :: tl) P) :
        Gives (tryOf S) (i :: us) (t :: tl) P := by
  rw [tryOf_eq, discard_bind]
  exact gives_step (reads_expect ht) h

theorem gives_tryBlock (ht : i.kind = .tryWord) (hb : Gives (blockOf S) us (t :: tl) (· ≠ b)) :
    Gives (tryOf S) (i :: us) (t :: tl) (· ≠ .trying b x h f) := by
  refine gives_tryOf ht (gives_first hb ?_)
  rintro b' ts s rest hb h rfl
  obtain ⟨y, _, -, h⟩ := bind_eq_ok.mp h
  obtain ⟨f', _, -, h⟩ := bind_eq_ok.mp h
  injection (pure_eq_ok.mp h).1 with hb'
  exact hb hb'

theorem gives_tryCatch (ht : i.kind = .tryWord) (hb : Reads (blockOf S) us (ahead hs t.kind) b)
    (hh : Gives (catchOf S) hs (t :: tl) (· ≠ (x, h))) :
    Gives (tryOf S) (i :: (us ++ hs)) (t :: tl) (· ≠ .trying b x h f) := by
  refine gives_tryOf ht (gives_bind hb (gives_first hh ?_))
  rintro y ts s rest hy h rfl
  obtain ⟨f', _, -, h⟩ := bind_eq_ok.mp h
  injection (pure_eq_ok.mp h).1 with _ hx hh
  exact hy (Prod.ext hx hh)

theorem gives_tryFinally (ht : i.kind = .tryWord)
    (hb : Reads (blockOf S) us (ahead (hs ++ fs) t.kind) b)
    (hh : Reads (catchOf S) hs (ahead fs t.kind) (x, h))
    (hf : Gives (wordBlock .finallyWord S) fs (t :: tl) (· ≠ f)) :
    Gives (tryOf S) (i :: (us ++ (hs ++ fs))) (t :: tl) (· ≠ .trying b x h f) :=
  gives_tryOf ht (gives_bind hb (gives_bind hh (gives_map hf (by simp))))

theorem gives_functionOf {ps : List String} {xs : List Token} (hf : i.kind = .funcWord)
    (hx : NamePart x xs (ahead (us ++ vs) t.kind)) (hp : ItemsPart .name ps us (ahead vs t.kind))
    (hk : ahead vs t.kind ≠ .arrow) (h : Gives (blockOf S) vs (t :: tl) (· ≠ b)) :
    Gives (functionOf S) (i :: (xs ++ (us ++ vs))) (t :: tl) (· ≠ .function x ps b false) := by
  rw [functionOf_eq]
  refine gives_peek (reads_accept_other (by simp [hf])) ?_
  rw [discard_bind]
  refine gives_step (reads_expect hf) ?_
  refine gives_bind hx.reads ?_
  refine gives_bind (hp.reads fun _ _ _ h => reads_name h) ?_
  refine gives_peek (reads_accept_other hk) ?_
  exact gives_map h (by simp)

theorem gives_blockOf_single {s : Node} (hk : ahead us t.kind ≠ .lbrace)
    (h : Gives S us (t :: tl) (· ≠ s)) :
    Gives (blockOf S) us (t :: tl) (· ≠ [s]) := by
  unfold blockOf
  exact gives_peek (reads_accept_other hk) (gives_map h (by simp))

theorem gives_wordBlock {word : Kind} (hn : Newlines ns) (hl : i.kind = word) (hw : word ≠ .newline)
    (h : Gives (blockOf S) us (t :: tl) (· ≠ b)) :
    Gives (wordBlock word S) (ns ++ i :: us) (t :: tl) (· ≠ some b) := by
  unfold wordBlock
  refine gives_bind (reads_skipNewlines hn (by rwa [ahead_cons, hl])) ?_
  refine gives_step (reads_accept hl) ?_
  exact gives_map h (by simp)

theorem gives_catchOf {xs : List Token} (hn : Newlines ns) (hl : i.kind = .catchWord)
    (hx : NamePart x xs (ahead us t.kind)) (h : Gives (blockOf S) us (t :: tl) (· ≠ b)) :
    Gives (catchOf S) (ns ++ i :: (xs ++ us)) (t :: tl) (· ≠ (x, some b)) := by
  unfold catchOf
  refine gives_bind (reads_skipNewlines hn (by simp [hl])) ?_
  refine gives_step (reads_accept hl) ?_
  refine gives_bind hx.reads ?_
  exact gives_map h (by simp)

end Forms

section Decorators

variable {S : Parser Node} {d : Node} {xs ds : List Node} {a x t : Token}
  {us vs ns tl : List Token} {k : Kind} {m n : Nat}

theorem gives_decorators_nil (ht : t.kind = .atSign) :
    Gives (decorators (n + 1)) [] (t :: tl) fun ds => 0 < ds.length := by
  have haccept : Gives (accept .atSign) [] (t :: tl) (· = true) := by
    unfold accept
    refine gives_currentKind ?_
    rw [ahead_nil, if_pos ht, discard_bind]
    intro b rest h
    obtain ⟨_, _, -, h⟩ := bind_eq_ok.mp h
    exact (pure_eq_ok.mp h).1.symm
  rw [decorators]
  refine gives_first haccept ?_
  rintro _ ts ds rest rfl h
  obtain ⟨d, _, -, h⟩ := bind_eq_ok.mp h
  obtain ⟨ds', _, -, h⟩ := bind_eq_ok.mp h
  obtain ⟨rfl, -⟩ := pure_eq_ok.mp h
  simp

theorem gives_decorators_cons (ha : a.kind = .atSign) (hx : x.kind = .identifier)
    (hi : ItemsPart .expression xs us (ahead (ns ++ vs) t.kind)) (hn : Newlines ns)
    (hv : ahead vs t.kind ≠ .newline)
    (h : Gives (decorators n) vs (t :: tl) fun ds => m < ds.length) :
    Gives (decorators (n + 1)) (a :: x :: (us ++ (ns ++ vs))) (t :: tl) fun ds =>
      m + 1 < ds.length := by
  rw [ahead_append] at hi
  have hmore : Gives (do return Node.decorator x.text xs :: (← decorators n)) vs (t :: tl)
      fun ds => m + 1 < ds.length := gives_map h (by simp)
  have hall :=
    gives_bind (f := fun d => do return d :: (← decorators n))
      (reads_decoratorBody hx hi hn hv) hmore
  rw [decorators]
  refine gives_step (reads_accept ha) ?_
  simpa using hall

/-- A decorator that follows decorators is read with them. -/
theorem Decorators.gives_more (h : Decorators ds us k) (hd : ds ≠ [])
    (hn : Newlines ns) (ht : t.kind = .atSign) (hl : us.length < n) :
    Gives (decorators n) (us ++ ns) (t :: tl) fun ds' => ds.length < ds'.length := by
  induction h generalizing n with
  | nil => exact absurd rfl hd
  | @cons xs ds a x us ms vs k ha hx hi hm hv h ih =>
    simp only [List.length_cons, List.length_append] at hl
    obtain ⟨n, rfl⟩ : ∃ m, n = m + 1 := ⟨n - 1, by omega⟩
    cases ds with
    | nil =>
      cases h
      obtain ⟨n, rfl⟩ : ∃ m, n = m + 1 := ⟨n - 1, by omega⟩
      have hms := hm.append hn
      have hi' : ItemsPart .expression xs us (ahead (ms ++ ns ++ []) t.kind) := by
        apply hi.before
        rw [List.append_nil]
        exact continues_ahead hms (by rw [ht]; rfl)
      have hnone : Gives (decorators (n + 1)) [] (t :: tl) fun ds => 0 < ds.length :=
        gives_decorators_nil ht
      have hall := gives_decorators_cons ha hx hi' hms (by simp [ht]) hnone
      simpa using hall
    | cons d ds =>
      have hvs : vs ≠ [] := by cases h; simp
      have hi' : ItemsPart .expression xs us (ahead (ms ++ (vs ++ ns)) t.kind) := by
        rwa [ahead_append, ahead_filled hvs, ← ahead_append]
      have hmore := ih (n := n) (by simp) (by omega)
      have hall := gives_decorators_cons ha hx hi' hm (by rwa [ahead_filled hvs]) hmore
      simpa using hall

theorem gives_decoratedOf {f : Node} (h : Decorators (d :: ds) us (ahead vs t.kind))
    (hf : ahead vs t.kind = .funcWord) (hg : Gives (functionOf S) vs (t :: tl) (· ≠ f)) :
    Gives (decoratedOf S) (us ++ vs) (t :: tl) (· ≠ .decorated (d :: ds) f) := by
  intro s rest hs
  obtain ⟨ts, ts', hget, hs⟩ := bind_eq_ok.mp hs
  cases hget
  have hl : us.length ≤ (us ++ vs ++ t :: tl).length := by
    simp only [List.length_append]
    omega
  obtain ⟨u, sl, hu, hk⟩ := exists_head vs tl rfl
  rw [List.append_assoc, hu,
    bind_of_ok (h.reads (by rw [← hu, ← List.append_assoc]; exact hl) u sl hk), ← hu] at hs
  refine gives_currentKind (Q := (· ≠ .decorated (d :: ds) f)) ?_ s rest hs
  rw [hf, if_pos rfl]
  exact gives_map hg (by simp)

/-- Decorators in front of a function or of another decorator are not read as themselves. -/
theorem Decorators.gives_other (h : Decorators (d :: ds) us .eof) (hn : Newlines ns)
    (ht : t.kind = .atSign ∨ t.kind = .funcWord) :
    Gives (decoratedOf S) (us ++ ns) (t :: tl) fun n =>
      (∃ ds' f, n = .decorated ds' f) ∨ ∃ ds', n = .group ds' ∧ (d :: ds).length < ds'.length := by
  intro n rest hr
  obtain ⟨ts, ts', hget, hr⟩ := bind_eq_ok.mp hr
  cases hget
  obtain ⟨ds', ts', hds, hr⟩ := bind_eq_ok.mp hr
  obtain ⟨k, _, hk, hr⟩ := bind_eq_ok.mp hr
  obtain ⟨rfl, rfl⟩ := currentKind_eq_ok hk
  split at hr
  · obtain ⟨f, _, -, hr⟩ := bind_eq_ok.mp hr
    exact .inl ⟨ds', f, (pure_eq_ok.mp hr).1.symm⟩
  · next hfunc =>
    right
    have hmore : (d :: ds).length < ds'.length := by
      rcases ht with ht | ht
      · have hl : us.length < (us ++ ns ++ t :: tl).length := by
          simp only [List.length_append, List.length_cons]
          omega
        exact h.gives_more (by simp) hn ht hl ds' _ hds
      · -- the decorators end in front of the function
        have hread :=
          (h.absorbs (j := .funcWord) (by simp) hn (continues_ahead hn rfl)
            (by decide) (by decide)).reads
          (n := (us ++ ns ++ t :: tl).length) (by simp) t tl ht
        rw [hds] at hread
        cases hread
        exact absurd ht hfunc
    cases ds' with
    | nil => simp at hmore
    | cons d' ds' =>
      cases ds' with
      | nil => simp at hmore
      | cons e ds' => exact ⟨d' :: e :: ds', (pure_eq_ok.mp hr).1.symm, hmore⟩

end Decorators

section Clashes

/-- How the parser of a clause treats tokens that something clashes with: it does not give the
clause. -/
def Clause.Misread : (c : Clause) → c.Carrier → List Token → List Token → Prop
  | .statement, s, us, tail => ∀ n, us.length ≤ n → Gives (statementWithin n) us tail (· ≠ s)
  | .form, s, us, tail =>
    ∀ n, us.length ≤ n + 1 → Gives (formOf (statementWithin n)) us tail (· ≠ s)
  | .function, s, us, tail =>
    ∀ n, us.length ≤ n + 1 → Gives (functionOf (statementWithin n)) us tail (· ≠ s)
  | .block, ss, us, tail =>
    ∀ n, us.length ≤ n → Gives (blockOf (statementWithin n)) us tail (· ≠ ss)
  | .lines _, _, _, _ => True
  | .wordBlock word, no, us, tail =>
    word ≠ .newline → ∀ n, us.length ≤ n →
      Gives (Parser.wordBlock word (statementWithin n)) us tail (· ≠ no)
  | .catcher, x, us, tail =>
    ∀ n, us.length ≤ n → Gives (catchOf (statementWithin n)) us tail (· ≠ x)

variable {p : Ending} {c : Clause} {a : c.Carrier} {S : Parser Node} {P : Node → Prop} {r t : Token}
  {us ns tl : List Token} {k : Kind}

theorem gives_formOf (hk : ahead us r.kind = k) (h : Gives (formAt S k) us (r :: tl) P) :
    Gives (formOf S) us (r :: tl) P := by
  refine gives_currentKind ?_
  rwa [hk]

/-- A clause is not read as itself when what follows clashes with what stands last in it. -/
theorem EndsIn.misread (h : EndsIn p c a us) (hp : p ≠ .expression) (hn : Newlines ns)
    (hc : p.Clashes ns t.kind) :
    c.Misread a us (ns ++ t :: tl) := by
  obtain ⟨r, sl, hr, -⟩ := exists_head ns tl (rfl : t.kind = t.kind)
  induction h with
  | expression => exact absurd rfl hp
  | bareReturn hret =>
    obtain ⟨rfl, ht⟩ := hc
    intro n _
    exact gives_formOf hret (gives_returnStatement hret ht)
  | arrowReturn hi h ho hret =>
    obtain ⟨rfl, ht⟩ := hc
    intro n _
    exact gives_formOf hi (gives_arrowReturn hi h ho hret ht)
  | elseReturn hi h ho hb hm hl hq hret =>
    obtain ⟨rfl, ht⟩ := hc
    intro n _
    exact gives_formOf hi (gives_elseReturn hi h ho hb hm hl hq hret ht)
  | decorator hd =>
    intro n _
    have hother : Gives (decoratedOf (statementWithin n)) _ (t :: tl) _ := hd.gives_other hn hc
    rw [Gives, List.append_assoc, hr] at hother
    rw [hr]
    refine gives_formOf (hd.opens _) ?_
    rintro s rest hs rfl
    cases hd
    rcases hother _ rest hs with ⟨ds', f, hs⟩ | ⟨ds', hs, -⟩ <;> cases hs
  | decorators hd =>
    intro n _
    have hother : Gives (decoratedOf (statementWithin n)) _ (t :: tl) _ := hd.gives_other hn hc
    rw [Gives, List.append_assoc, hr] at hother
    rw [hr]
    refine gives_formOf (hd.opens _) ?_
    rintro s rest hs rfl
    rcases hother _ rest hs with ⟨ds', f, hs⟩ | ⟨ds', hs, hlt⟩
    · cases hs
    · cases hs
      exact absurd hlt (Nat.lt_irrefl _)
  | @statement _ s ms us hm h ih =>
    intro n hl
    have hpos := List.length_pos_iff.mpr h.ne_nil
    have hopens : opensForm (ahead us r.kind) = true := by
      rw [ahead_of_ne_nil h.ne_nil]
      exact h.composes.opens_form
    simp only [List.length_append] at hl
    obtain ⟨m, rfl⟩ : ∃ m, n = m + 1 := ⟨n - 1, by omega⟩
    rw [hr] at ih ⊢
    rw [statementWithin_succ]
    exact gives_bind (reads_skipNewlines hm (ne_of_opensForm hopens rfl)) (ih hp hc m (by omega))
  | thenBlock hi h hk hb ih =>
    intro n hl
    simp only [List.length_cons, List.length_append] at hl
    rw [ahead_of_ne_nil hb.ne_nil _ r.kind] at h hk
    rw [hr] at ih ⊢
    exact gives_formOf hi (gives_thenBlock hi h hk (ih hp hc n (by omega)))
  | elseBlock hi h hk hb hno ih =>
    intro n hl
    simp only [List.length_cons, List.length_append] at hl
    have hus := hb.ne_nil rfl
    rw [ahead_of_ne_nil hno.ne_nil _ r.kind] at hb
    rw [hr] at ih ⊢
    exact gives_formOf hi
      (gives_elseBlock hi (by rwa [ahead_filled hus]) (by rwa [ahead_filled hus])
        (hb.accepted n (by omega)) (ih hp hc (by decide) n (by omega)))
  | whileLoop hw h hb ih =>
    intro n hl
    simp only [List.length_cons, List.length_append] at hl
    rw [ahead_of_ne_nil hb.ne_nil _ r.kind] at h
    rw [hr] at ih ⊢
    exact gives_formOf hw (gives_whileOf hw h (ih hp hc n (by omega)))
  | forLoop hf hx h hb ih =>
    intro n hl
    simp only [List.length_cons, List.length_append] at hl
    rw [ahead_of_ne_nil hb.ne_nil _ r.kind] at h
    rw [hr] at ih ⊢
    exact gives_formOf hf (gives_forOf hf hx h (ih hp hc n (by omega)))
  | tryBlock ht hb ih =>
    intro n hl
    simp only [List.length_cons] at hl
    rw [hr] at ih ⊢
    exact gives_formOf ht (gives_tryBlock ht (ih hp hc n (by omega)))
  | tryCatch ht hb hh ih =>
    intro n hl
    simp only [List.length_cons, List.length_append] at hl
    rw [ahead_of_ne_nil hh.ne_nil _ r.kind] at hb
    rw [hr] at ih ⊢
    exact gives_formOf ht (gives_tryCatch ht (hb.accepted n (by omega)) (ih hp hc n (by omega)))
  | tryFinally ht hb hh hf ih =>
    intro n hl
    simp only [List.length_cons, List.length_append] at hl
    rw [ahead_append, ahead_of_ne_nil hf.ne_nil _ r.kind, ← ahead_append] at hb
    rw [ahead_of_ne_nil hf.ne_nil _ r.kind] at hh
    rw [hr] at ih ⊢
    exact gives_formOf ht (gives_tryFinally ht (hb.accepted n (by omega)) (hh.accepted n (by omega))
      (ih hp hc (by decide) n (by omega)))
  | @definition _ f us h ih =>
    intro n hl
    have hf : ahead us r.kind = .funcWord := by
      rw [ahead_of_ne_nil h.ne_nil]
      exact h.composes.opens
    rw [hr] at ih ⊢
    exact gives_formOf hf (ih hp hc n hl)
  | @decorated _ d f ds us vs hd h ih =>
    intro n hl
    simp only [List.length_append] at hl
    have hf : ahead vs r.kind = .funcWord := by
      rw [ahead_of_ne_nil h.ne_nil]
      exact h.composes.opens
    rw [ahead_of_ne_nil h.ne_nil _ r.kind] at hd
    rw [hr] at ih ⊢
    exact gives_formOf (k := .atSign) (by rw [ahead_append, hd.opens])
      (gives_decoratedOf hd hf (ih hp hc n (by omega)))
  | blockFunction hf hx hps hk hb ih =>
    intro n hl
    simp only [List.length_cons, List.length_append] at hl
    rw [ahead_append, ahead_of_ne_nil hb.ne_nil _ r.kind, ← ahead_append] at hx
    rw [ahead_of_ne_nil hb.ne_nil _ r.kind] at hps hk
    rw [hr] at ih ⊢
    exact gives_functionOf hf hx hps hk (ih hp hc n (by omega))
  | single h hk ih =>
    intro n hl
    rw [ahead_of_ne_nil h.ne_nil _ r.kind] at hk
    rw [hr] at ih ⊢
    exact gives_blockOf_single hk (ih hp hc n hl)
  | after hm hl hb ih =>
    intro hw n hlen
    simp only [List.length_cons, List.length_append] at hlen
    rw [hr] at ih ⊢
    exact gives_wordBlock hm hl hw (ih hp hc n (by omega))
  | caught hm hl hx hb ih =>
    intro n hlen
    simp only [List.length_cons, List.length_append] at hlen
    rw [ahead_of_ne_nil hb.ne_nil _ r.kind] at hx
    rw [hr] at ih ⊢
    exact gives_catchOf hm hl hx (ih hp hc n (by omega))

end Clashes

end FloScript.Parser
