import FloScript.Proofs.ClauseRecognition

/-! What stands last in a clause, and what may follow it. A clause that the end of the tokens closes
is also closed by newlines, by a semicolon and by a closing brace, unless they clash with what
stands last in it. -/
namespace FloScript.Parser

variable {j k : Kind} {us vs cs ns : List Token}

/-- Newlines, and the words that go on with a clause after newlines. -/
def resumes (k : Kind) : Bool := [Kind.newline, .elseWord, .catchWord, .finallyWord].contains k

theorem ne_of_resumes (hj : resumes j = false) (hk : resumes k = true) : j ≠ k := by
  rintro rfl
  rw [hk] at hj
  cases hj

/-- The kinds that can close a clause. -/
def closes (k : Kind) : Bool := [Kind.newline, .semicolon, .rbrace, .eof].contains k

theorem continues_of_closes (h : closes k = true) : k.continues = false := by
  revert h
  cases k <;> decide

theorem ahead_newlines (hn : Newlines ns) (hne : ns ≠ []) : ahead ns j = .newline := by
  cases ns with
  | nil => exact absurd rfl hne
  | cons m ns => exact hn m (by simp)

theorem ahead_filled {ms : List Token} (h : us ≠ []) : ahead (us ++ ms) j = ahead us k := by
  rw [ahead_append]
  exact ahead_of_ne_nil h _ _

theorem continues_ahead (hn : Newlines ns) (hk : k.continues = false) :
    (ahead ns k).continues = false := by
  cases ns with
  | nil => exact hk
  | cons m ns =>
    rw [ahead_cons, hn m (by simp)]
    rfl

theorem Newlines.append (hn : Newlines ns) (hu : Newlines us) : Newlines (ns ++ us) := by
  intro t ht
  exact (List.mem_append.mp ht).elim (hn t) (hu t)

section Endings

/-- What can stand last in a clause and clash with what follows: an expression that is a statement,
with no sign after it, a return without a value, and decorators without a function. -/
inductive Ending where
  | expression
  | bareReturn
  | decorators

/-- Newlines and then a token of the given kind do not close what stands last: an expression takes a
semicolon to itself, a bare return takes a brace for its value, and decorators go on over
newlines. -/
def Ending.Clashes : Ending → List Token → Kind → Prop
  | expression, ns, j => ns = [] ∧ j = .semicolon
  | bareReturn, ns, j => ns = [] ∧ j = .rbrace
  | decorators, _, j => j = .atSign ∨ j = .funcWord

/-- The tokens compose the clause at the end of all tokens, and the ending stands last in it. -/
inductive EndsIn : Ending → (c : Clause) → c.Carrier → List Token → Prop where
  | expression {e : Node} {us : List Token} :
      Spells .expression e us .eof → EndsIn .expression .form e us
  | bareReturn {r : Token} : r.kind = .returnWord → EndsIn .bareReturn .form (.returning none) [r]
  | arrowReturn {c : Node} {i o r : Token} {cs : List Token} :
      i.kind = .ifWord → Spells .expression c cs .arrow → o.kind = .arrow → r.kind = .returnWord →
      EndsIn .bareReturn .form (.conditional c [.returning none] none) (i :: (cs ++ [o, r]))
  | elseReturn {c : Node} {b : List Node} {i o l q r : Token} {cs us ns : List Token} :
      i.kind = .ifWord → Spells .expression c cs .arrow → o.kind = .arrow →
      ArrowBranch b us (ahead ns .elseWord) → Newlines ns → l.kind = .elseWord → q.kind = .arrow →
      r.kind = .returnWord →
      EndsIn .bareReturn .form (.conditional c b (some [.returning none]))
      (i :: (cs ++ o :: (us ++ (ns ++ [l, q, r]))))
  | decorator {d : Node} {us : List Token} : Decorators [d] us .eof → EndsIn .decorators .form d us
  | decorators {d e : Node} {ds : List Node} {us : List Token} :
      Decorators (d :: e :: ds) us .eof → EndsIn .decorators .form (.group (d :: e :: ds)) us
  | statement {p : Ending} {s : Node} {ns us : List Token} :
      Newlines ns → EndsIn p .form s us → EndsIn p .statement s (ns ++ us)
  | thenBlock {p : Ending} {c : Node} {b : List Node} {i : Token} {cs us : List Token} :
      i.kind = .ifWord → Spells .expression c cs (ahead us .eof) → ahead us .eof ≠ .arrow →
        EndsIn p .block b us →
      EndsIn p .form (.conditional c b none) (i :: (cs ++ us))
  | elseBlock {p : Ending} {c : Node} {b : List Node} {no : Option (List Node)} {i : Token}
      {cs us ds : List Token} :
      i.kind = .ifWord → Spells .expression c cs (ahead us .eof) → ahead us .eof ≠ .arrow →
      Composes .block b us (ahead ds .eof) → EndsIn p (.wordBlock .elseWord) no ds →
      EndsIn p .form (.conditional c b no) (i :: (cs ++ (us ++ ds)))
  | whileLoop {p : Ending} {c : Node} {b : List Node} {w : Token} {cs us : List Token} :
      w.kind = .whileWord → Spells .expression c cs (ahead us .eof) → EndsIn p .block b us →
      EndsIn p .form (.whileLoop c b) (w :: (cs ++ us))
  | forLoop {p : Ending} {i : Node} {b : List Node} {f x : Token} {cs us : List Token} :
      f.kind = .forWord → x.kind = .identifier → Spells .expression i cs (ahead us .eof) →
        EndsIn p .block b us →
      EndsIn p .form (.forLoop x.text i b) (f :: x :: (cs ++ us))
  | tryBlock {p : Ending} {b : List Node} {t : Token} {us : List Token} :
      t.kind = .tryWord → EndsIn p .block b us → EndsIn p .form (.trying b none none none) (t :: us)
  | tryCatch {p : Ending} {b : List Node} {x : Option String} {h : Option (List Node)} {t : Token}
      {us hs : List Token} :
      t.kind = .tryWord → Composes .block b us (ahead hs .eof) → EndsIn p .catcher (x, h) hs →
      EndsIn p .form (.trying b x h none) (t :: (us ++ hs))
  | tryFinally {p : Ending} {b : List Node} {x : Option String}
      {h f : Option (List Node)} {t : Token} {us hs fs : List Token} :
      t.kind = .tryWord → Composes .block b us (ahead (hs ++ fs) .eof) →
        Composes .catcher (x, h) hs (ahead fs .eof) →
      EndsIn p (.wordBlock .finallyWord) f fs →
      EndsIn p .form (.trying b x h f) (t :: (us ++ (hs ++ fs)))
  | definition {p : Ending} {f : Node} {us : List Token} :
      EndsIn p .function f us → EndsIn p .form f us
  | decorated {p : Ending} {d f : Node} {ds : List Node} {us vs : List Token} :
      Decorators (d :: ds) us (ahead vs .eof) → EndsIn p .function f vs →
      EndsIn p .form (.decorated (d :: ds) f) (us ++ vs)
  | blockFunction {p : Ending} {name : Option String} {ps : List String} {b : List Node} {f : Token}
      {xs us vs : List Token} :
      f.kind = .funcWord → NamePart name xs (ahead (us ++ vs) .eof) →
        ItemsPart .name ps us (ahead vs .eof) →
      ahead vs .eof ≠ .arrow → EndsIn p .block b vs →
      EndsIn p .function (.function name ps b false) (f :: (xs ++ (us ++ vs)))
  | single {p : Ending} {s : Node} {us : List Token} :
      EndsIn p .statement s us → ahead us .eof ≠ .lbrace → EndsIn p .block [s] us
  | after {p : Ending} {word : Kind} {b : List Node} {l : Token} {ns us : List Token} :
      Newlines ns → l.kind = word → EndsIn p .block b us →
        EndsIn p (.wordBlock word) (some b) (ns ++ l :: us)
  | caught {p : Ending} {x : Option String} {b : List Node} {l : Token} {ns xs us : List Token} :
      Newlines ns → l.kind = .catchWord → NamePart x xs (ahead us .eof) → EndsIn p .block b us →
      EndsIn p .catcher (x, some b) (ns ++ l :: (xs ++ us))

variable {p : Ending} {c : Clause} {a : c.Carrier}

theorem EndsIn.ne_nil (h : EndsIn p c a us) : us ≠ [] := by
  induction h with
  | expression h => exact h.ne_nil
  | decorator h | decorators h => cases h; simp
  | _ => simp_all

theorem EndsIn.composes (h : EndsIn p c a us) : Composes c a us .eof := by
  induction h with
  | expression h => exact composes_expression h (by decide) (by decide)
  | bareReturn hr => exact .returning (.nothing hr (by simp))
  | @arrowReturn _ _ _ r _ hi h ho hr =>
    have hb : ArrowBranch [.returning none] [r] .eof := .returning (.nothing hr (by simp))
    have hno : ArrowElse none [] .eof := .absent newlines_nil (by decide) (by decide)
    exact .arrowIf hi h ho hb hno
  | elseReturn hi h ho hb hn hl hq hr =>
    exact .arrowIf hi h ho (by simpa [hl] using hb)
      (.given hn hl hq (.returning (.nothing hr (by simp))))
  | decorator h => exact .decorator h (by decide)
  | decorators h => exact .decorators h (by decide)
  | statement hn _ ih => exact .statement hn ih
  | @thenBlock _ _ _ _ _ us hi h hk _ ih =>
    have hno : Composes (.wordBlock .elseWord) none [] .eof :=
      .without newlines_nil (by decide) (by decide)
    have hform := Composes.blockIf hi (by simpa using h) (by simpa using hk) ih hno
    simpa using hform
  | elseBlock hi h hk hb _ ih =>
    have hus := hb.ne_nil rfl
    exact .blockIf hi (by rwa [ahead_filled hus]) (by rwa [ahead_filled hus]) hb ih
  | whileLoop hw h _ ih => exact .whileLoop hw h ih
  | forLoop hf hx h _ ih => exact .forLoop hf hx h ih
  | tryBlock ht _ ih =>
    have hh : Composes .catcher (none, none) [] .eof :=
      .uncaught newlines_nil (by decide) (by decide)
    have hf : Composes (.wordBlock .finallyWord) none [] .eof :=
      .without newlines_nil (by decide) (by decide)
    simpa using Composes.trying ht ih hh hf
  | tryCatch ht hb _ ih =>
    have hf : Composes (.wordBlock .finallyWord) none [] .eof :=
      .without newlines_nil (by decide) (by decide)
    have hform := Composes.trying ht (by simpa using hb) ih hf
    simpa using hform
  | tryFinally ht hb hh _ ih => exact .trying ht hb hh ih
  | definition _ ih => exact .definition ih
  | decorated hd _ ih => exact .decorated hd ih
  | blockFunction hf hx hp hk _ ih => exact .blockFunction hf hx hp hk ih
  | single _ hk ih => exact .single ih hk
  | after hn hl _ ih => exact .after hn hl ih
  | caught hn hl hx _ ih => exact .caught hn hl hx ih

theorem Decorators.atSign_mem {d : Node} {ds : List Node} (h : Decorators (d :: ds) us k) :
    ∃ u ∈ us, u.kind = .atSign := by
  cases h with
  | @cons _ _ a _ _ _ _ _ ha => exact ⟨a, by simp, ha⟩

theorem EndsIn.atSign_mem (h : EndsIn .decorators c a us) : ∃ u ∈ us, u.kind = .atSign := by
  generalize hp : Ending.decorators = p at h
  induction h with
  | expression | bareReturn | arrowReturn | elseReturn => cases hp
  | decorator h | decorators h => exact h.atSign_mem
  | definition _ ih | single _ _ ih => exact ih hp
  | statement _ _ ih | thenBlock _ _ _ _ ih | elseBlock _ _ _ _ _ ih | whileLoop _ _ _ ih
  | forLoop _ _ _ _ ih
  | tryBlock _ _ ih | tryCatch _ _ _ ih | tryFinally _ _ _ _ ih | decorated _ _ ih
  | blockFunction _ _ _ _ _ ih
  | after _ _ _ ih | caught _ _ _ _ ih =>
    obtain ⟨u, hu, hk⟩ := ih hp
    exact ⟨u, by simp [hu], hk⟩

end Endings

section Parts

/-- A return is closed by every closing kind, one without a value not by a brace. -/
theorem Returns.before {t : Node} (h : Returns t us k) (hj : closes j = true)
    (hb : ∀ r, t = .returning none → us = [r] → r.kind = .returnWord → j ≠ .rbrace) :
    Returns t us j := by
  cases h with
  | @nothing r _ hr =>
    refine .nothing hr ?_
    have hbrace := hb r rfl rfl hr
    revert hj hbrace
    cases j <;> decide
  | value hr h => exact .value hr (h.before (continues_of_closes hj))

theorem ArrowBranch.before {b : List Node} (h : ArrowBranch b us k) (hj : closes j = true)
    (hb : ∀ r, b = [.returning none] → us = [r] → r.kind = .returnWord → j ≠ .rbrace) :
    ArrowBranch b us j := by
  cases h with
  | returning h => exact .returning (h.before hj fun r ht => hb r (by rw [ht]))
  | expression h => exact .expression (h.before (continues_of_closes hj))

theorem ItemsPart.before {s : Shape} {item : Phrase s} {xs : List s.Carrier}
    (h : ItemsPart item xs us k) (hj : j.continues = false) : ItemsPart item xs us j := by
  cases h with
  | given ho h => exact .given ho (h.before hj)
  | absent => exact .absent (by rintro rfl; cases hj)

/-- Decorators take the newlines after them. -/
theorem Decorators.absorbs {ds : List Node} (h : Decorators ds us k)
    (hd : ds ≠ []) (hn : Newlines ns) (hf : (ahead ns j).continues = false) (hj : j ≠ .newline)
    (ha : j ≠ .atSign) : Decorators ds (us ++ ns) j := by
  induction h with
  | nil => exact absurd rfl hd
  | @cons xs ds a x us ms vs k hat hx hi hm hv h ih =>
    cases ds with
    | nil =>
      cases h
      have hms : Newlines (ms ++ ns) := hm.append hn
      have hi' : ItemsPart .expression xs us (ahead (ms ++ ns ++ []) j) := by
        apply hi.before
        rw [List.append_nil, ahead_append]
        exact continues_ahead hm hf
      simpa using Decorators.cons hat hx hi' hms hj (.nil ha)
    | cons d ds =>
      have hvs : vs ≠ [] := by cases h; simp
      have hi' : ItemsPart .expression xs us (ahead (ms ++ (vs ++ ns)) j) := by
        rwa [ahead_append, ahead_filled hvs, ← ahead_append]
      simpa using Decorators.cons hat hx hi' hm (by rwa [ahead_filled hvs]) (ih (by simp))

theorem Decorators.atEnd {ds : List Node} (h : Decorators ds us k) (hd : ds ≠ []) :
    Decorators ds us .eof := by
  have he := h.absorbs (j := .eof) hd newlines_nil rfl (by decide) (by decide)
  rwa [List.append_nil] at he

theorem Composes.wordBlock_nil {word : Kind} {b : Option (List Node)}
    (h : Composes (.wordBlock word) b [] k) :
    b = none := by
  generalize hu : ([] : List Token) = us at h
  cases h with
  | without => rfl
  | after => simp at hu

theorem Composes.catcher_nil {x : Option String × Option (List Node)}
    (h : Composes .catcher x [] k) :
    x = (none, none) := by
  generalize hu : ([] : List Token) = us at h
  cases h with
  | uncaught => rfl
  | caught => simp at hu

end Parts

section Absorbing

/-- The clauses whose end can be put off to a newline. -/
def Clause.Closable : Clause → Prop
  | lines _ => False
  | wordBlock word => resumes word = true
  | _ => True

/-- With newlines after it the clause takes some of them. -/
def Absorbs (c : Clause) (a : c.Carrier) (us ns : List Token) (j : Kind) : Prop :=
  ∃ ms rest, ns = ms ++ rest ∧ Composes c a (us ++ ms) (ahead rest j)

variable {c : Clause} {a : c.Carrier} {t : Node} {b : List Node} {x : Option String}
  {no h f : Option (List Node)} {i : Token} {ds hs fs : List Token}

theorem absorbs_none (h : Composes c a us (ahead ns j)) : Absorbs c a us ns j :=
  ⟨[], ns, rfl, by rwa [List.append_nil]⟩

theorem absorbs_all (h : Composes c a (us ++ ns) j) : Absorbs c a us ns j := ⟨ns, [], by simp, h⟩

theorem absorbs_statement {s : Node} {ms : List Token} (hm : Newlines ms)
    (h : Absorbs .form s us ns j) :
    Absorbs .statement s (ms ++ us) ns j := by
  obtain ⟨ms', rest, rfl, h⟩ := h
  exact ⟨ms', rest, rfl, by simpa using Composes.statement hm h⟩

theorem absorbs_thenBlock (hi : i.kind = .ifWord) (hc : Spells .expression t cs (ahead us k))
    (hk : ahead us k ≠ .arrow) (hus : us ≠ []) (hn : Newlines ns) (hj : resumes j = false)
    (h : Absorbs .block b us ns j) :
    Absorbs .form (.conditional t b none) (i :: (cs ++ us)) ns j := by
  obtain ⟨ms, rest, rfl, hb⟩ := h
  obtain ⟨-, hrest⟩ := List.forall_mem_append.mp hn
  have hno := Composes.without hrest (ne_of_resumes hj rfl) (ne_of_resumes (k := .elseWord) hj rfl)
  have hform := Composes.blockIf hi (by rwa [List.append_assoc, ahead_filled hus])
    (by rwa [List.append_assoc, ahead_filled hus]) hb hno
  exact absorbs_all (by simpa using hform)

theorem absorbs_elseBlock (hi : i.kind = .ifWord) (hc : Spells .expression t cs (ahead us k))
    (hk : ahead us k ≠ .arrow) (hb : Composes .block b us (ahead ds k)) (hds : ds ≠ [])
    (h : Absorbs (.wordBlock .elseWord) no ds ns j) :
    Absorbs .form (.conditional t b no) (i :: (cs ++ (us ++ ds))) ns j := by
  obtain ⟨ms, rest, rfl, hno⟩ := h
  have hus := hb.ne_nil rfl
  refine ⟨ms, rest, rfl, ?_⟩
  rw [List.cons_append, List.append_assoc, List.append_assoc]
  exact .blockIf hi (by rwa [ahead_filled hus]) (by rwa [ahead_filled hus])
    (by rwa [ahead_filled hds]) hno

theorem absorbs_whileLoop (hw : i.kind = .whileWord)
    (hc : Spells .expression t cs (ahead us k)) (hus : us ≠ []) (h : Absorbs .block b us ns j) :
    Absorbs .form (.whileLoop t b) (i :: (cs ++ us)) ns j := by
  obtain ⟨ms, rest, rfl, hb⟩ := h
  refine ⟨ms, rest, rfl, ?_⟩
  rw [List.cons_append, List.append_assoc]
  exact .whileLoop hw (by rwa [ahead_filled hus]) hb

theorem absorbs_forLoop {x : Token} (hf : i.kind = .forWord) (hx : x.kind = .identifier)
    (hc : Spells .expression t cs (ahead us k)) (hus : us ≠ []) (h : Absorbs .block b us ns j) :
    Absorbs .form (.forLoop x.text t b) (i :: x :: (cs ++ us)) ns j := by
  obtain ⟨ms, rest, rfl, hb⟩ := h
  refine ⟨ms, rest, rfl, ?_⟩
  rw [List.cons_append, List.cons_append, List.append_assoc]
  exact .forLoop hf hx (by rwa [ahead_filled hus]) hb

theorem absorbs_tryBlock (ht : i.kind = .tryWord) (hn : Newlines ns) (hj : resumes j = false)
    (h : Absorbs .block b us ns j) : Absorbs .form (.trying b none none none) (i :: us) ns j := by
  obtain ⟨ms, rest, rfl, hb⟩ := h
  obtain ⟨-, hrest⟩ := List.forall_mem_append.mp hn
  have hh := Composes.uncaught hrest (ne_of_resumes hj rfl) (ne_of_resumes hj rfl)
  have hf :=
    Composes.without newlines_nil (ne_of_resumes hj rfl) (ne_of_resumes (k := .finallyWord) hj rfl)
  have hform := Composes.trying ht (by simpa using hb) hh hf
  exact absorbs_all (by simpa using hform)

theorem absorbs_tryCatch (ht : i.kind = .tryWord)
    (hb : Composes .block b us (ahead hs k)) (hhs : hs ≠ []) (hn : Newlines ns)
    (hj : resumes j = false) (hh : Absorbs .catcher (x, h) hs ns j) :
    Absorbs .form (.trying b x h none) (i :: (us ++ hs)) ns j := by
  obtain ⟨ms, rest, rfl, hh⟩ := hh
  obtain ⟨-, hrest⟩ := List.forall_mem_append.mp hn
  have hf :=
    Composes.without hrest (ne_of_resumes hj rfl) (ne_of_resumes (k := .finallyWord) hj rfl)
  have hform := Composes.trying ht (by rwa [List.append_assoc, ahead_filled hhs]) hh hf
  exact absorbs_all (by simpa using hform)

theorem absorbs_tryFinally (ht : i.kind = .tryWord) (hb : Composes .block b us (ahead (hs ++ fs) k))
    (hh : Composes .catcher (x, h) hs (ahead fs k)) (hfs : fs ≠ [])
    (hf : Absorbs (.wordBlock .finallyWord) f fs ns j) :
    Absorbs .form (.trying b x h f) (i :: (us ++ (hs ++ fs))) ns j := by
  obtain ⟨ms, rest, rfl, hf⟩ := hf
  refine ⟨ms, rest, rfl, ?_⟩
  rw [List.cons_append, List.append_assoc, List.append_assoc]
  refine .trying ht ?_ (by rwa [ahead_filled hfs]) hf
  rwa [ahead_append, ahead_filled hfs, ← ahead_append]

theorem absorbs_definition {f : Node} (h : Absorbs .function f us ns j) :
    Absorbs .form f us ns j := by
  obtain ⟨ms, rest, rfl, h⟩ := h
  exact ⟨ms, rest, rfl, .definition h⟩

theorem absorbs_decorated {d f : Node} {ds : List Node}
    (hd : Decorators (d :: ds) us (ahead vs k)) (hvs : vs ≠ []) (h : Absorbs .function f vs ns j) :
    Absorbs .form (.decorated (d :: ds) f) (us ++ vs) ns j := by
  obtain ⟨ms, rest, rfl, h⟩ := h
  refine ⟨ms, rest, rfl, ?_⟩
  rw [List.append_assoc]
  exact .decorated (by rwa [ahead_filled hvs]) h

theorem absorbs_blockFunction {ps : List String} {xs : List Token} (hf : i.kind = .funcWord)
    (hx : NamePart x xs (ahead (us ++ vs) k)) (hp : ItemsPart .name ps us (ahead vs k))
    (hk : ahead vs k ≠ .arrow) (hvs : vs ≠ []) (h : Absorbs .block b vs ns j) :
    Absorbs .function (.function x ps b false) (i :: (xs ++ (us ++ vs))) ns j := by
  obtain ⟨ms, rest, rfl, hb⟩ := h
  refine ⟨ms, rest, rfl, ?_⟩
  rw [List.cons_append, List.append_assoc, List.append_assoc]
  refine .blockFunction hf ?_ (by rwa [ahead_filled hvs]) (by rwa [ahead_filled hvs]) hb
  rwa [ahead_append, ahead_filled hvs, ← ahead_append]

theorem absorbs_single {s : Node} (hk : ahead us k ≠ .lbrace) (hus : us ≠ [])
    (h : Absorbs .statement s us ns j) :
    Absorbs .block [s] us ns j := by
  obtain ⟨ms, rest, rfl, h⟩ := h
  exact ⟨ms, rest, rfl, .single h (by rwa [ahead_filled hus])⟩

theorem absorbs_after {word : Kind} {ms : List Token} (hm : Newlines ms) (hl : i.kind = word)
    (h : Absorbs .block b us ns j) : Absorbs (.wordBlock word) (some b) (ms ++ i :: us) ns j := by
  obtain ⟨ms', rest, rfl, hb⟩ := h
  exact ⟨ms', rest, rfl, by simpa using Composes.after hm hl hb⟩

theorem absorbs_caught {ms xs : List Token} (hm : Newlines ms) (hl : i.kind = .catchWord)
    (hx : NamePart x xs (ahead us k)) (hus : us ≠ []) (h : Absorbs .block b us ns j) :
    Absorbs .catcher (x, some b) (ms ++ i :: (xs ++ us)) ns j := by
  obtain ⟨ms', rest, rfl, hb⟩ := h
  have hcaught := Composes.caught hm hl (by rwa [ahead_filled hus]) hb
  exact ⟨ms', rest, rfl, by simpa using hcaught⟩

end Absorbing

section Closing

variable {c : Clause} {a : c.Carrier}

/-- A condition with arrows takes the newlines after it, to look for its else part behind them. -/
theorem absorbs_arrowIf {t : Node} {b : List Node} {no : Option (List Node)}
    {i o : Token} {ds : List Token} (hi : i.kind = .ifWord)
    (h : Spells .expression t cs .arrow) (ho : o.kind = .arrow) (hb : ArrowBranch b us (ahead ds k))
    (hno : ArrowElse no ds k) (hn : Newlines ns) (hcl : closes (ahead ns j) = true)
    (hj : resumes j = false)
    (hends : EndsIn .bareReturn .form (.conditional t b no) (i :: (cs ++ o :: (us ++ ds))) →
      ns = [] → j ≠ .rbrace) :
    Absorbs .form (.conditional t b no) (i :: (cs ++ o :: (us ++ ds))) ns j := by
  cases hno with
  | @absent ms _ hm =>
    have hb' : ArrowBranch b us (ahead (ds ++ ns) j) := by
      cases ds with
      | cons d ds => exact hb
      | nil =>
        apply hb.before hcl
        rintro r rfl rfl hr hbrace
        cases ns with
        | nil => exact hends (.arrowReturn hi h ho hr) rfl hbrace
        | cons m ns => simp [hn m (by simp)] at hbrace
    have hno' := ArrowElse.absent (hm.append hn) (ne_of_resumes hj rfl) (ne_of_resumes hj rfl)
    have hform := Composes.arrowIf hi h ho hb' hno'
    exact absorbs_all (by simpa using hform)
  | dropped hm hl =>
    refine absorbs_none (.arrowIf hi h ho (by simpa using hb) (.dropped hm hl ?_))
    intro ha
    rw [ha] at hcl
    cases hcl
  | @given b' ms vs l q _ hm hl hq hb' =>
    refine absorbs_none (.arrowIf hi h ho (by simpa using hb) (.given hm hl hq (hb'.before hcl ?_)))
    rintro r rfl rfl hr hbrace
    cases ns with
    | nil =>
      have hb'' : ArrowBranch b us (ahead ms .elseWord) := by simpa [hl] using hb
      exact hends (.elseReturn hi h ho hb'' hm hl hq hr) rfl hbrace
    | cons m ns => simp [hn m (by simp)] at hbrace

/-- A clause is closed by newlines and by the closing kinds, if they do not clash with what stands
last in it. -/
theorem Composes.absorbs_of_ends (h : Composes c a us k) (hc : c.Closable) (hn : Newlines ns)
    (hcl : closes (ahead ns j) = true) (hj : resumes j = false)
    (hends : ∀ p, EndsIn p c a us → ¬ p.Clashes ns j) :
    Absorbs c a us ns j := by
  have hcont := continues_of_closes hcl
  induction h with
  | statement hm _ ih =>
    exact absorbs_statement hm (ih trivial fun p hp => hends p (.statement hm hp))
  | @expression e us _ _ h ht =>
    cases ht with
    | sign hs => exact absorbs_none (.expression h (.sign hs))
    | nothing =>
      rw [List.append_nil] at hends ⊢
      cases ns with
      | nil =>
        have hs : j ≠ .semicolon :=
          fun hs => hends .expression (.expression (h.before rfl)) ⟨rfl, hs⟩
        exact absorbs_none (composes_expression (h.before hcont) hs (ne_of_resumes hj rfl))
      | cons m ns =>
        have hm : m.kind = .newline := hn m (by simp)
        exact ⟨[m], ns, rfl, .expression (by simpa [hm] using h.before rfl) (.sign (.inr hm))⟩
  | returning h =>
    refine absorbs_none (.returning (h.before hcl ?_))
    rintro r rfl rfl hr hbrace
    cases ns with
    | nil => exact hends .bareReturn (.bareReturn hr) ⟨rfl, hbrace⟩
    | cons m ns => simp [hn m (by simp)] at hbrace
  | arrowIf hi h ho hb hno =>
    exact absorbs_arrowIf hi h ho hb hno hn hcl hj fun he hne hbrace =>
      hends .bareReturn he ⟨hne, hbrace⟩
  | @blockIf _ _ _ _ _ us ds k hi h hk hb hno ihb ihno =>
    have hus := hb.ne_nil rfl
    cases ds with
    | nil =>
      obtain rfl := hno.wordBlock_nil
      rw [List.append_nil] at h hk hends ⊢
      refine absorbs_thenBlock hi h hk hus hn hj (ihb trivial fun p hp => hends p ?_)
      exact .thenBlock hi (by rwa [ahead_of_ne_nil hus]) (by rwa [ahead_of_ne_nil hus]) hp
    | cons d ds =>
      rw [ahead_filled (k := k) hus] at h hk
      refine absorbs_elseBlock hi h hk hb (by simp) (ihno rfl fun p hp => hends p ?_)
      exact .elseBlock hi (by rwa [ahead_of_ne_nil hus]) (by rwa [ahead_of_ne_nil hus]) hb hp
  | whileLoop hw h hb ih =>
    have hus := hb.ne_nil rfl
    exact absorbs_whileLoop hw h hus (ih trivial fun p hp => hends p
      (.whileLoop hw (by rwa [ahead_of_ne_nil hus]) hp))
  | forLoop hf hx h hb ih =>
    have hus := hb.ne_nil rfl
    exact absorbs_forLoop hf hx h hus (ih trivial fun p hp => hends p
      (.forLoop hf hx (by rwa [ahead_of_ne_nil hus]) hp))
  | @trying _ _ _ _ _ us hs fs _ ht hb hh hf ihb ihh ihf =>
    cases fs with
    | cons d fs =>
      exact absorbs_tryFinally ht hb hh (by simp) (ihf rfl fun p hp => hends p
        (.tryFinally ht (by simpa using hb) hh hp))
    | nil =>
      obtain rfl := hf.wordBlock_nil
      rw [List.append_nil] at hb hends ⊢
      cases hs with
      | cons d hs =>
        exact absorbs_tryCatch ht hb (by simp) hn hj
          (ihh trivial fun p hp => hends p (.tryCatch ht hb hp))
      | nil =>
        cases hh.catcher_nil
        rw [List.append_nil] at hends ⊢
        exact absorbs_tryBlock ht hn hj (ihb trivial fun p hp => hends p (.tryBlock ht hp))
  | definition _ ih => exact absorbs_definition (ih trivial fun p hp => hends p (.definition hp))
  | decorated hd h ih =>
    have hvs := h.ne_nil rfl
    exact absorbs_decorated hd hvs
      (ih trivial fun p hp => hends p (.decorated (by rwa [ahead_of_ne_nil hvs]) hp))
  | decorator hd =>
    have hclash := hends .decorators (.decorator (hd.atEnd (by simp)))
    obtain ⟨ha, hf⟩ := not_or.mp hclash
    exact absorbs_all (.decorator (hd.absorbs (by simp) hn hcont (ne_of_resumes hj rfl) ha) hf)
  | decorators hd =>
    have hclash := hends .decorators (.decorators (hd.atEnd (by simp)))
    obtain ⟨ha, hf⟩ := not_or.mp hclash
    exact absorbs_all (.decorators (hd.absorbs (by simp) hn hcont (ne_of_resumes hj rfl) ha) hf)
  | arrowFunction hf hx hp ha h => exact absorbs_none (.arrowFunction hf hx hp ha (h.before hcont))
  | blockFunction hf hx hp hk hb ih =>
    have hvs := hb.ne_nil rfl
    refine absorbs_blockFunction hf hx hp hk hvs (ih trivial fun p hp' => hends p ?_)
    refine .blockFunction hf ?_ (by rwa [ahead_of_ne_nil hvs]) (by rwa [ahead_of_ne_nil hvs]) hp'
    rwa [ahead_append, ahead_of_ne_nil hvs, ← ahead_append]
  | braces ho hm hk h hq => exact absorbs_none (.braces ho hm hk h hq)
  | single h hk ih =>
    have hus := h.ne_nil rfl
    exact absorbs_single hk hus
      (ih trivial fun p hp => hends p (.single hp (by rwa [ahead_of_ne_nil hus])))
  | nil | cons => exact hc.elim
  | without hm =>
    exact absorbs_all (.without (hm.append hn) (ne_of_resumes hj rfl) (ne_of_resumes hj hc))
  | after hm hl _ ih => exact absorbs_after hm hl (ih trivial fun p hp => hends p (.after hm hl hp))
  | uncaught hm =>
    exact absorbs_all (.uncaught (hm.append hn) (ne_of_resumes hj rfl) (ne_of_resumes hj rfl))
  | caught hm hl hx hb ih =>
    have hus := hb.ne_nil rfl
    exact absorbs_caught hm hl hx hus (ih trivial fun p hp => hends p
      (.caught hm hl (by rwa [ahead_of_ne_nil hus]) hp))

/-- After newlines only decorators can clash with what follows. -/
theorem Composes.absorbs (h : Composes c a us k)
    (hat : ∀ u ∈ us, u.kind = .atSign → j ≠ .atSign ∧ j ≠ .funcWord)
    (hc : c.Closable) (hn : Newlines ns) (hne : ns ≠ []) (hj : resumes j = false) :
    Absorbs c a us ns j := by
  apply h.absorbs_of_ends hc hn (by rw [ahead_newlines hn hne]; rfl) hj
  intro p hp hclash
  cases p with
  | expression | bareReturn => exact hne hclash.1
  | decorators =>
    obtain ⟨u, hu, hk⟩ := hp.atSign_mem
    obtain ⟨ha, hf⟩ := hat u hu hk
    exact hclash.elim ha hf

/-- An expression that stands last takes a semicolon as its end. -/
theorem EndsIn.takes_semicolon {t : Token} (h : EndsIn .expression c a us)
    (ht : t.kind = .semicolon) (hn : Newlines ns) (hj : resumes j = false) :
    Absorbs c a (us ++ [t]) ns j := by
  generalize hp : Ending.expression = p at h
  induction h with
  | bareReturn | arrowReturn | elseReturn | decorator | decorators => cases hp
  | expression h =>
    exact absorbs_none (.expression (by simpa [ht] using h.before rfl) (.sign (.inl ht)))
  | statement hm _ ih =>
    rw [List.append_assoc]
    exact absorbs_statement hm (ih hp)
  | thenBlock hi hc hk h ih =>
    rw [List.cons_append, List.append_assoc]
    exact absorbs_thenBlock (k := .eof) hi (by rwa [ahead_filled h.ne_nil])
      (by rwa [ahead_filled h.ne_nil]) (by simp) hn hj (ih hp)
  | elseBlock hi hc hk hb h ih =>
    rw [List.cons_append, List.append_assoc, List.append_assoc]
    exact absorbs_elseBlock hi hc hk (by rwa [ahead_filled h.ne_nil]) (by simp) (ih hp)
  | whileLoop hw hc h ih =>
    rw [List.cons_append, List.append_assoc]
    exact absorbs_whileLoop (k := .eof) hw (by rwa [ahead_filled h.ne_nil]) (by simp) (ih hp)
  | forLoop hf hx hc h ih =>
    rw [List.cons_append, List.cons_append, List.append_assoc]
    exact absorbs_forLoop (k := .eof) hf hx (by rwa [ahead_filled h.ne_nil]) (by simp) (ih hp)
  | tryBlock ht' _ ih => exact absorbs_tryBlock ht' hn hj (ih hp)
  | tryCatch ht' hb h ih =>
    rw [List.cons_append, List.append_assoc]
    exact absorbs_tryCatch (k := .eof) ht' (by rwa [ahead_filled h.ne_nil]) (by simp) hn hj (ih hp)
  | tryFinally ht' hb hh h ih =>
    rw [List.cons_append, List.append_assoc, List.append_assoc]
    refine absorbs_tryFinally (k := .eof) ht' ?_ (by rwa [ahead_filled h.ne_nil]) (by simp) (ih hp)
    rwa [ahead_append, ahead_filled h.ne_nil, ← ahead_append]
  | definition _ ih => exact absorbs_definition (ih hp)
  | decorated hd h ih =>
    rw [List.append_assoc]
    exact absorbs_decorated (k := .eof) (by rwa [ahead_filled h.ne_nil]) (by simp) (ih hp)
  | blockFunction hf hx hps hk h ih =>
    rw [List.cons_append, List.append_assoc, List.append_assoc]
    refine absorbs_blockFunction (k := .eof) hf ?_ (by rwa [ahead_filled h.ne_nil])
      (by rwa [ahead_filled h.ne_nil]) (by simp) (ih hp)
    rwa [ahead_append, ahead_filled h.ne_nil, ← ahead_append]
  | single h hk ih =>
    exact absorbs_single (k := .eof) (by rwa [ahead_filled h.ne_nil]) (by simp) (ih hp)
  | after hm hl _ ih =>
    rw [List.append_assoc]
    exact absorbs_after hm hl (ih hp)
  | caught hm hl hx h ih =>
    rw [List.append_assoc, List.cons_append, List.append_assoc]
    exact absorbs_caught (k := .eof) hm hl (by rwa [ahead_filled h.ne_nil]) (by simp) (ih hp)

end Closing

end FloScript.Parser
