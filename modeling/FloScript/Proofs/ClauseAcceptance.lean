import FloScript.Proofs.Clause

/-! Every composed clause is read: the parser of a clause reads its tokens when a token of the right
kind follows them, at every depth that the number of the tokens allows. -/
namespace FloScript.Parser

variable {α β : Type} {S : Parser Node} {b : β} {k word close : Kind}
  {us vs cs ds ns xs : List Token} {n : Nat}

theorem reads_look {g : Token → Parser β} (h : ∀ r, r.kind = k → Reads (g r) [] k b) :
    Reads (current >>= g) [] k b := by
  intro r tl hr
  have hc : current (r :: tl) = .ok r (r :: tl) := rfl
  exact (bind_of_ok hc).trans (h r hr r tl hr)

theorem NamePart.reads {x : Option String} (h : NamePart x xs k) : Reads optionalName xs k x := by
  unfold optionalName
  cases h with
  | given hx =>
    apply reads_current
    rw [if_pos hx, discard_bind]
    exact reads_step reads_advance reads_pure
  | absent hk =>
    apply reads_look
    intro r hr
    rw [if_neg (by rwa [hr])]
    exact reads_pure

/-- Items without newlines between them are read by every parser that reads each of them. -/
theorem reads_items {s : Shape} {item : Phrase s} {p : Parser s.Carrier} {as : List s.Carrier}
    (hp : ∀ x vs j, Spells item x vs j → Reads p vs j x)
    (h : Spells (.items close false item) as us k) :
    ∀ n, us.length ≤ n → Reads (closedWithin close (commaAfter p) n) us k as := by
  generalize hm : us.length = m
  induction m using Nat.strongRecOn generalizing us as with
  | ind m ih =>
    intro n hn
    cases h with
    | nil hc => exact reads_closedWithin_nil hc n
    | @cons _ _ _ _ x _ us cs _ vs _ _ hc _ hx hs _ hf _ hr =>
      obtain rfl := hf rfl
      have hpos := List.length_pos_iff.mpr hx.ne_nil
      simp only [List.nil_append, List.length_append] at hm hc hs hx
      obtain ⟨f, rfl⟩ : ∃ f, n = f + 1 := ⟨n - 1, by omega⟩
      rw [ahead_append] at hx
      have hitem := reads_commaAfter (hp _ _ _ hx) hs
      have hrest := ih vs.length (by omega) hr rfl f (by omega)
      have hall := reads_closedWithin_cons (by simpa using hc) hitem hrest
      simpa using hall

theorem ItemsPart.reads {s : Shape} {item : Phrase s} {p : Parser s.Carrier} {as : List s.Carrier}
    (hp : ∀ x vs j, Spells item x vs j → Reads p vs j x) (h : ItemsPart item as us k) :
    Reads (optionalItems p) us k as := by
  unfold optionalItems
  cases h with
  | given ho hs => exact reads_step (reads_accept ho) (reads_closedBy (reads_items hp hs))
  | absent hk => exact reads_peek (reads_accept_other hk) reads_pure

theorem reads_name {x : String} (h : Spells .name x us k) :
    Reads (do return (← expect .identifier).text) us k x := by
  cases h with
  | name hx => exact reads_map (reads_expect hx)

theorem Returns.reads {t : Node} (h : Returns t us k) : Reads returnStatement us k t := by
  unfold returnStatement
  rw [discard_bind]
  cases h with
  | nothing hr hk =>
    apply reads_step (reads_expect hr)
    apply reads_currentKind
    rw [ahead_nil, if_pos (by rcases hk with rfl | rfl | rfl <;> rfl)]
    exact reads_pure
  | value hr hs =>
    have hn := ahead_ne_of_spells (j := .newline) hs rfl
    have hc := ahead_ne_of_spells (j := .semicolon) hs rfl
    have he := ahead_ne_of_spells (j := .eof) hs rfl
    apply reads_step (reads_expect hr)
    apply reads_currentKind
    rw [if_neg (by simp [hn, hc, he])]
    exact reads_map hs.reads

theorem ArrowBranch.reads {ts : List Node} (h : ArrowBranch ts us k) : Reads branch us k ts := by
  unfold branch
  apply reads_currentKind
  cases h with
  | returning h =>
    rw [if_pos (h.opens _)]
    exact reads_map h.reads
  | expression h =>
    rw [if_neg (ahead_ne_of_spells h rfl)]
    exact reads_map h.reads

theorem ArrowElse.reads {no : Option (List Node)} (h : ArrowElse no ds k) :
    Reads arrowElse ds k no := by
  unfold arrowElse
  cases h with
  | absent hn hk he =>
    apply reads_finish (reads_skipNewlines hn hk)
    exact reads_finish (reads_accept_other he) reads_pure
  | dropped hn hl hk =>
    apply reads_bind (reads_skipNewlines hn (by simp [hl]))
    apply reads_finish (reads_accept hl)
    exact reads_finish (reads_accept_other hk) reads_pure
  | given hn hl ho hb =>
    apply reads_bind (reads_skipNewlines hn (by simp [hl]))
    apply reads_step (reads_accept hl)
    apply reads_step (reads_accept ho)
    exact reads_map hb.reads

theorem Terminator.reads {e : Node} (h : Terminator cs k) :
    Reads (do
      let j ← currentKind
      if j = .semicolon || j = .newline then discard advance
      return e) cs k e := by
  apply reads_currentKind
  cases h with
  | sign hc =>
    rw [if_pos (by rcases hc with hc | hc <;> simp [hc]), discard_bind]
    exact reads_step reads_advance reads_pure
  | nothing hs hn =>
    rw [ahead_nil, if_neg (by simp [hs, hn])]
    exact reads_pure

theorem reads_decoratorBody {xs : List Node} {x : Token} (hx : x.kind = .identifier)
    (hi : ItemsPart .expression xs us (ahead ns k)) (hn : Newlines ns) (hk : k ≠ .newline) :
    Reads decoratorBody (x :: (us ++ ns)) k (.decorator x.text xs) := by
  rw [decoratorBody_eq]
  apply reads_step (reads_expect hx)
  apply reads_bind (hi.reads fun _ _ _ h => h.reads)
  exact reads_finish (reads_skipNewlines hn hk) reads_pure

theorem Decorators.reads {as : List Node} (h : Decorators as us k) (hn : us.length ≤ n) :
    Reads (decorators n) us k as := by
  induction h generalizing n with
  | nil hk =>
    cases n with
    | zero => exact reads_pure
    | succ n => exact reads_peek (reads_accept_other hk) reads_pure
  | @cons args ds a x us ns vs k ha hx hs hns hv _ ih =>
    simp only [List.length_cons, List.length_append] at hn
    rw [ahead_append] at hs
    obtain ⟨m, rfl⟩ : ∃ m, n = m + 1 := ⟨n - 1, by omega⟩
    have hall :=
      reads_bind (f := fun d => do return d :: (← decorators m)) (reads_decoratorBody hx hs hns hv)
        (reads_map (ih (by omega)))
    rw [decorators]
    apply reads_step (reads_accept ha)
    simpa using hall

section Blocks

variable {s t : Node} {ss ts : List Node} {no : Option (List Node)} {i o q : Token}

theorem reads_ifOf_arrow {c : Node} (hi : i.kind = .ifWord)
    (hc : Reads expression cs .arrow c) (ho : o.kind = .arrow)
    (hb : Reads branch us (ahead ds k) ts) (hd : Reads arrowElse ds k no) :
    Reads (ifOf S) (i :: (cs ++ o :: (us ++ ds))) k (.conditional c ts no) := by
  unfold ifOf
  rw [discard_bind]
  apply reads_step (reads_expect hi)
  apply reads_bind (by rwa [ahead_cons, ho])
  apply reads_step (reads_accept ho)
  simp only [if_true]
  exact reads_bind hb (reads_map hd)

theorem reads_ifOf_block {c : Node} (hi : i.kind = .ifWord)
    (hc : Reads expression cs (ahead (us ++ ds) k) c) (hk : ahead (us ++ ds) k ≠ .arrow)
    (hb : Reads (blockOf S) us (ahead ds k) ts) (hd : Reads (wordBlock .elseWord S) ds k no) :
    Reads (ifOf S) (i :: (cs ++ (us ++ ds))) k (.conditional c ts no) := by
  unfold ifOf
  rw [discard_bind]
  apply reads_step (reads_expect hi)
  apply reads_bind hc
  apply reads_peek (reads_accept_other hk)
  simp only [Bool.false_eq_true, if_false]
  exact reads_bind hb (reads_map hd)

theorem reads_blockOf_lines (ho : o.kind = .lbrace) (hn : Newlines ns)
    (hu : ahead us .rbrace ≠ .newline)
    (h : ∀ n, us.length ≤ n → Reads (itemsUntil .rbrace (lineOf S) n) us .rbrace ss)
    (hq : q.kind = .rbrace) :
    Reads (blockOf S) (o :: (ns ++ (us ++ [q]))) k ss := by
  unfold blockOf
  apply reads_step (reads_accept ho)
  apply reads_bind (reads_skipNewlines hn (by simpa [hq] using hu))
  apply reads_closedBy
  intro n hl
  simp only [List.length_append] at hl
  unfold closedWithin
  apply reads_bind
  · rw [ahead_cons, hq]
    exact h n (by omega)
  · rw [discard_bind]
    exact reads_step (reads_expect hq) reads_pure

theorem reads_blockOf_single (h : Reads S us k s) (hk : ahead us k ≠ .lbrace) :
    Reads (blockOf S) us k [s] := by
  unfold blockOf
  exact reads_peek (reads_accept_other hk) (reads_map h)

theorem reads_wordBlock_none (hn : Newlines ns) (hk : k ≠ .newline) (hw : k ≠ word) :
    Reads (wordBlock word S) ns k none := by
  unfold wordBlock
  apply reads_finish (reads_skipNewlines hn hk)
  exact reads_finish (reads_accept_other hw) reads_pure

theorem reads_wordBlock_some (hn : Newlines ns) (hl : o.kind = word) (hw : word ≠ .newline)
    (h : Reads (blockOf S) ds k ts) : Reads (wordBlock word S) (ns ++ o :: ds) k (some ts) := by
  unfold wordBlock
  apply reads_bind (reads_skipNewlines hn (by rwa [ahead_cons, hl]))
  exact reads_step (reads_accept hl) (reads_map h)

end Blocks

/-- How the parser of a clause treats its tokens. Every nested statement takes a token of its own,
so the number of tokens bounds the depth. -/
def Clause.Accepted : (c : Clause) → c.Carrier → List Token → Kind → Prop
  | .statement, s, us, k => ∀ n, us.length ≤ n → Reads (statementWithin n) us k s
  | .form, s, us, k => ∀ n, us.length ≤ n + 1 → Reads (formOf (statementWithin n)) us k s
  | .function, s, us, k => ∀ n, us.length ≤ n + 1 → Reads (functionOf (statementWithin n)) us k s
  | .block, ss, us, k => ∀ n, us.length ≤ n → Reads (blockOf (statementWithin n)) us k ss
  | .lines close, ss, us, _ => opensForm close = false → close ≠ .newline → ∀ n, us.length ≤ n →
    ∀ f, us.length ≤ f → Reads (itemsUntil close (lineOf (statementWithin n)) f) us close ss
  | .wordBlock word, no, us, k =>
    word ≠ .newline → ∀ n, us.length ≤ n → Reads (Parser.wordBlock word (statementWithin n)) us k no
  | .catcher, x, us, k => ∀ n, us.length ≤ n → Reads (catchOf (statementWithin n)) us k x

theorem reads_itemsUntil_cons {p : Parser α} {a : α} {as : List α}
    (hne : ahead (us ++ vs) close ≠ close) (hp : Reads p us (ahead vs close) a)
    (h : Reads (itemsUntil close p n) vs close as) :
    Reads (itemsUntil close p (n + 1)) (us ++ vs) close (a :: as) := by
  rw [itemsUntil]
  apply reads_currentKind
  rw [if_neg hne]
  exact reads_bind hp (reads_map h)

/-- A statement and the lines after it. -/
theorem reads_lines_cons {s : Node} {ss : List Node} (hc : opensForm close = false)
    (hne : close ≠ .newline) (h : Composes .statement s us (ahead (ns ++ vs) close))
    (hs : Reads S us (ahead (ns ++ vs) close) s) (hn : Newlines ns) (hv : ahead vs close ≠ .newline)
    (hss : Reads (itemsUntil close (lineOf S) n) vs close ss) :
    Reads (itemsUntil close (lineOf S) (n + 1)) (us ++ (ns ++ vs)) close (s :: ss) := by
  have hopen : ahead us (ahead (ns ++ vs) close) ≠ close := by
    rcases h.opens with ho | ho
    · rw [ho]
      exact hne.symm
    · exact ne_of_opensForm ho hc
  have hline : Reads (lineOf S) (us ++ ns) (ahead vs close) s := by
    rw [ahead_append] at hs
    exact reads_bind hs (reads_finish (reads_skipNewlines hn hv) reads_pure)
  have hall := reads_itemsUntil_cons (by simpa using hopen) hline hss
  rwa [List.append_assoc] at hall

theorem reads_formOf {t : Node} (h : Reads (formAt S (ahead us k)) us k t) :
    Reads (formOf S) us k t :=
  reads_currentKind h

theorem formAt_of_opensExpression (h : k.opensExpression = true) : formAt S k = (do
    let e ← expression
    let j ← currentKind
    if j = .semicolon || j = .newline then discard advance
    return e) := by
  unfold formAt
  split
  case h_8 => rfl
  all_goals simp_all [Kind.opensExpression, Kind.opensPrimary, Kind.isSign]

theorem reads_functionOf {name : Option String} {ps : List String} {body : List Node} {f : Token}
    (hf : f.kind = .funcWord) (hx : NamePart name xs (ahead (us ++ vs) k))
    (hp : ItemsPart .name ps us (ahead vs k)) (hb : Reads (do
      if ← accept .arrow then
        let e ← expression
        return Node.function name ps [.returning (some e)] false
      else return Node.function name ps (← blockOf S) false) vs k (.function name ps body false)) :
    Reads (functionOf S) (f :: (xs ++ (us ++ vs))) k (.function name ps body false) := by
  rw [functionOf_eq]
  apply reads_peek (reads_accept_other (by simp [hf]))
  rw [discard_bind]
  apply reads_step (reads_expect hf)
  apply reads_bind hx.reads
  exact reads_bind (hp.reads fun _ _ _ h => reads_name h) hb

theorem reads_decoratedOf {as : List Node} {t : Node} (h : Decorators as us (ahead vs k))
    (ht : Reads (do
      if (← currentKind) = .funcWord then return .decorated as (← functionOf S)
      match as with
      | [d] => return d
      | ds => return .group ds) vs k t) : Reads (decoratedOf S) (us ++ vs) k t := by
  intro r tl hr
  have hd : us.length ≤ (us ++ vs ++ r :: tl).length := by
    simp only [List.length_append]
    omega
  exact reads_bind (h.reads hd) ht r tl hr

theorem reads_decoratedOf_alone {as : List Node} {t : Node}
    (h : Decorators as us k) (hk : k ≠ .funcWord) (ht : Reads (match as with
      | [d] => return d
      | ds => return .group ds) [] k t) : Reads (decoratedOf S) us k t := by
  have hr : Reads (decoratedOf S) (us ++ []) k t := by
    apply reads_decoratedOf h
    apply reads_currentKind
    rw [ahead_nil, if_neg hk]
    exact ht
  rwa [List.append_nil] at hr

theorem Composes.accepted {c : Clause} {a : c.Carrier} (h : Composes c a us k) :
    c.Accepted a us k := by
  induction h with
  | @statement s ns us k hn h ih =>
    intro n hl
    have hpos := List.length_pos_iff.mpr (h.ne_nil rfl)
    simp only [List.length_append] at hl
    obtain ⟨m, rfl⟩ : ∃ m, n = m + 1 := ⟨n - 1, by omega⟩
    rw [statementWithin_succ]
    exact reads_bind (reads_skipNewlines hn (ne_of_opensForm h.opens_form rfl)) (ih m (by omega))
  | expression hs ht =>
    intro n _
    have ho : (ahead _ _).opensExpression = true := hs.opens
    apply reads_formOf
    rw [ahead_append, formAt_of_opensExpression ho]
    exact reads_bind hs.reads ht.reads
  | returning h =>
    intro n _
    apply reads_formOf
    rw [h.opens]
    exact h.reads
  | arrowIf hi hc ho hb hd =>
    intro n _
    apply reads_formOf
    rw [ahead_cons, hi]
    exact reads_ifOf_arrow hi hc.reads ho hb.reads hd.reads
  | blockIf hi hc hk _ _ ihb ihd =>
    intro n hl
    simp only [List.length_cons, List.length_append] at hl
    apply reads_formOf
    rw [ahead_cons, hi]
    exact reads_ifOf_block hi hc.reads hk (ihb n (by omega)) (ihd (by decide) n (by omega))
  | whileLoop hw hc _ ih =>
    intro n hl
    simp only [List.length_cons, List.length_append] at hl
    apply reads_formOf
    rw [ahead_cons, hw]
    unfold formAt whileOf
    rw [discard_bind]
    apply reads_step (reads_expect hw)
    exact reads_bind hc.reads (reads_map (ih n (by omega)))
  | forLoop hf hx hi _ ih =>
    intro n hl
    simp only [List.length_cons, List.length_append] at hl
    apply reads_formOf
    rw [ahead_cons, hf]
    unfold formAt forOf
    rw [discard_bind]
    apply reads_step (reads_expect hf)
    apply reads_step (reads_expect hx)
    exact reads_bind hi.reads (reads_map (ih n (by omega)))
  | trying ht _ _ _ ihb ihh ihf =>
    intro n hl
    simp only [List.length_cons, List.length_append] at hl
    apply reads_formOf
    rw [ahead_cons, ht]
    unfold formAt
    rw [tryOf_eq, discard_bind]
    apply reads_step (reads_expect ht)
    apply reads_bind (ihb n (by omega))
    apply reads_bind (ihh n (by omega))
    exact reads_map (ihf (by decide) n (by omega))
  | definition h ih =>
    intro n hl
    have hf : ahead _ _ = Kind.funcWord := h.opens
    apply reads_formOf
    rw [hf]
    exact ih n hl
  | @decorated d f ds us vs k hd h ih =>
    intro n hl
    have hf : ahead vs k = .funcWord := h.opens
    have hvs : vs.length ≤ n + 1 := by
      simp only [List.length_append] at hl
      omega
    apply reads_formOf
    rw [ahead_append, hd.opens]
    apply reads_decoratedOf hd
    apply reads_currentKind
    rw [hf, if_pos rfl]
    exact reads_map (ih n hvs)
  | decorator hd hk =>
    intro n _
    apply reads_formOf
    rw [hd.opens]
    exact reads_decoratedOf_alone hd hk reads_pure
  | decorators hd hk =>
    intro n _
    apply reads_formOf
    rw [hd.opens]
    exact reads_decoratedOf_alone hd hk reads_pure
  | arrowFunction hf hx hp ha he =>
    intro n _
    apply reads_functionOf hf
    · simpa [ha] using hx
    · simpa [ha] using hp
    · exact reads_step (reads_accept ha) (reads_map he.reads)
  | blockFunction hf hx hp hk _ ih =>
    intro n hl
    simp only [List.length_cons, List.length_append] at hl
    apply reads_functionOf hf hx hp
    exact reads_peek (reads_accept_other hk) (reads_map (ih n (by omega)))
  | braces ho hn hu _ hq ih =>
    intro n hl
    simp only [List.length_cons, List.length_append] at hl
    exact reads_blockOf_lines ho hn hu (ih rfl (by decide) n (by omega)) hq
  | single _ hk ih =>
    intro n hl
    exact reads_blockOf_single (ih n hl) hk
  | nil =>
    intro _ _ n _ f _
    exact reads_itemsUntil_nil f
  | @cons close s ss us ns vs h hn hv _ ih ihs =>
    intro hc hne n hl f hf
    have hpos := List.length_pos_iff.mpr (h.ne_nil rfl)
    simp only [List.length_append] at hl hf
    obtain ⟨g, rfl⟩ : ∃ g, f = g + 1 := ⟨f - 1, by omega⟩
    exact reads_lines_cons hc hne h (ih n (by omega)) hn hv (ihs hc hne n (by omega) g (by omega))
  | without hn hk hw =>
    intro _ n _
    exact reads_wordBlock_none hn hk hw
  | after hn hl _ ih =>
    intro hw n hm
    simp only [List.length_append, List.length_cons] at hm
    exact reads_wordBlock_some hn hl hw (ih n (by omega))
  | uncaught hn hk hw =>
    intro n _
    unfold catchOf
    apply reads_finish (reads_skipNewlines hn hk)
    exact reads_finish (reads_accept_other hw) reads_pure
  | caught hn hl hx _ ih =>
    intro n hm
    simp only [List.length_append, List.length_cons] at hm
    unfold catchOf
    apply reads_bind (reads_skipNewlines hn (by simp [hl]))
    apply reads_step (reads_accept hl)
    exact reads_bind hx.reads (reads_map (ih n (by omega)))

/-- A composed statement is read whole, and nothing after it. -/
theorem Composes.reads {s : Node} (h : Composes .statement s us k) :
    Reads Parser.statement us k s := by
  intro r tl hr
  have hd : us.length ≤ depthFor (us ++ r :: tl) := by
    simp only [depthFor, List.length_append]
    omega
  exact h.accepted _ hd r tl hr

theorem Composes.reads_lines {ss : List Node} (h : Composes (.lines close) ss us close)
    (hc : opensForm close = false) (hne : close ≠ .newline) :
    ∀ n, us.length ≤ n → Reads (itemsUntil close (lineOf Parser.statement) n) us close ss := by
  generalize hm : us.length = m
  induction m using Nat.strongRecOn generalizing us ss with
  | ind m ih =>
    intro n hn
    cases h with
    | nil => exact reads_itemsUntil_nil n
    | @cons _ s ss us ns vs h hns hv hss =>
      have hpos := List.length_pos_iff.mpr (h.ne_nil rfl)
      simp only [List.length_append] at hm
      obtain ⟨f, rfl⟩ : ∃ f, n = f + 1 := ⟨n - 1, by omega⟩
      exact reads_lines_cons hc hne h h.reads hns hv (ih vs.length (by omega) hss rfl f (by omega))

/-- The tokens of a whole program. -/
inductive Program : List Node → List Token → Prop where
  | intro {ss : List Node} {ns us : List Token} :
      Newlines ns → ahead us .eof ≠ .newline → Composes (.lines .eof) ss us .eof →
        Program ss (ns ++ us)

theorem Program.reads {ss : List Node} (h : Program ss us) :
    Reads program us .eof (.program ss) := by
  cases h with
  | intro hn hu h =>
    unfold program
    apply reads_bind (reads_skipNewlines hn hu)
    intro r tl hr
    exact reads_map (h.reads_lines rfl (by decide) _ (by simp)) r tl hr

theorem Program.programOf_eq {ss : List Node} (h : Program ss us) {e : Token} (he : e.kind = .eof)
    (tl : List Token) : programOf (us ++ e :: tl) = .ok (.program ss) := by
  rw [programOf, h.reads e tl he]

/-- A statement in front of a program. -/
theorem program_cons {s : Node} {ss : List Node}
    (h : Composes .form s us (ahead vs .eof)) (hv : Program ss vs) :
    Program (s :: ss) (us ++ vs) := by
  cases hv with
  | @intro ns vs hn hk hss =>
    have hopen : ahead (us ++ (ns ++ vs)) .eof ≠ .newline := by
      rw [ahead_append]
      exact ne_of_opensForm h.opens_form rfl
    have hp : Program (s :: ss) ([] ++ (us ++ (ns ++ vs))) :=
      .intro newlines_nil hopen (.cons h.ofForm hn hk hss)
    exact hp

theorem program_nil : Program [] [] := .intro newlines_nil (by decide) .nil

theorem program_statement {s : Node} (h : Composes .form s us .eof) : Program [s] us := by
  have hp : Program [s] (us ++ []) := program_cons h program_nil
  rwa [List.append_nil] at hp

theorem composes_expression {e : Node} (h : Spells .expression e us k)
    (hs : k ≠ .semicolon) (hn : k ≠ .newline) :
    Composes .form e us k := by
  have he : Composes .form e (us ++ []) k := .expression h (.nothing hs hn)
  rwa [List.append_nil] at he

end FloScript.Parser
