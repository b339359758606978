import FloScript.Proofs.ClauseClashes
import FloScript.Proofs.ParsingEnds

/-! Statements with a newline or a semicolon between them. Every statement is closed by a newline,
unless it ends in decorators and a function or another decorator comes next; a semicolon only closes
a statement that ends in an expression. A closing brace closes every statement but those that end in
a bare return. -/
namespace FloScript.Parser

variable {close j : Kind} {s : Node} {ss : List Node} {us vs ns : List Token}

section Lines

/-- Statements up to a closing token, with newlines in front, between and after. -/
inductive Lined (close : Kind) : List Node → List Token → Prop where
  | intro {ss : List Node} {ns us : List Token} :
      Newlines ns → ahead us close ≠ .newline → Composes (.lines close) ss us close →
        Lined close ss (ns ++ us)

theorem program_iff_lined : Program ss us ↔ Lined .eof ss us := by
  constructor
  · rintro ⟨hn, hu, h⟩
    exact .intro hn hu h
  · rintro ⟨hn, hu, h⟩
    exact .intro hn hu h

/-- Newlines in front of lines do not matter. -/
theorem lined_newlines (hn : Newlines ns) : Lined close ss (ns ++ us) ↔ Lined close ss us := by
  constructor
  · intro h
    generalize hw : ns ++ us = ws at h
    cases h with
    | @intro ms vs hm hv h =>
      rcases List.append_eq_append_iff.mp hw with ⟨xs, rfl, rfl⟩ | ⟨xs, rfl, rfl⟩
      · exact .intro (fun t ht => hm t (by simp [ht])) hv h
      · -- the newlines reach into the lines, which begin with none
        cases xs with
        | nil => exact .intro newlines_nil hv h
        | cons x xs => exact absurd (hn x (by simp)) hv
  · rintro ⟨hm, hu, h⟩
    rw [← List.append_assoc]
    exact .intro (hn.append hm) hu h

theorem Composes.afterNewlines (hn : Newlines ns) (h : Composes .statement s us j) :
    Composes .statement s (ns ++ us) j := by
  cases h with
  | statement hm h =>
    rw [← List.append_assoc]
    exact .statement (hn.append hm) h

/-- Lines are a statement and the lines after it. -/
theorem lined_cons : Lined close (s :: ss) us ↔
    ∃ vs ws, us = vs ++ ws ∧ Composes .statement s vs (ahead ws close) ∧ Lined close ss ws := by
  constructor
  · rintro ⟨hn, -, h⟩
    cases h with
    | @cons _ _ _ us ms vs h hm hv hss =>
      exact ⟨_, ms ++ vs, by simp, h.afterNewlines hn, .intro hm hv hss⟩
  · rintro ⟨vs, ws, rfl, h, hws⟩
    cases h with
    | @statement _ ns us _ hn h =>
      cases hws with
      | @intro ms ws hm hw hss =>
        have hu : ahead (us ++ (ms ++ ws)) close ≠ .newline := by
          rw [ahead_append]
          exact ne_of_opensForm h.opens_form rfl
        rw [List.append_assoc]
        exact .intro hn hu (.cons h.ofForm hm hw hss)

theorem lined_nil (hc : close ≠ .newline) (hn : Newlines ns) : Lined close [] ns := by
  have h : Lined close [] (ns ++ []) := .intro hn hc .nil
  rwa [List.append_nil] at h

/-- One text is not read as two statements of different length. -/
theorem Composes.unique {s' : Node} {us' vs' : List Token}
    (h : Composes .statement s us (ahead vs close))
    (h' : Composes .statement s' us' (ahead vs' close)) (hu : us ++ vs = us' ++ vs') :
    vs = vs' := by
  obtain ⟨r, tl, hr, hk⟩ := exists_head vs [] (kind_sample (k := close))
  obtain ⟨r', tl', hr', hk'⟩ := exists_head vs' [] (kind_sample (k := close))
  have hread : Parser.statement (us ++ vs ++ [sample close]) = .ok s (vs ++ [sample close]) := by
    rw [List.append_assoc, hr]
    exact h.reads r tl hk
  have hread' :
      Parser.statement (us' ++ vs' ++ [sample close]) = .ok s' (vs' ++ [sample close]) := by
    rw [List.append_assoc, hr']
    exact h'.reads r' tl' hk'
  rw [hu, hread'] at hread
  injection hread with _ hrest
  exact (List.append_cancel_right hrest).symm

end Lines

/-- A statement that is read whole at the end of the tokens. -/
structure Sentence where
  node : Node
  tokens : List Token
  accepted : ∃ e, e.kind = .eof ∧ statement (tokens ++ [e]) = .ok node [e]

namespace Sentence

variable (s : Sentence) {t : Token}

theorem composes : Composes .statement s.node s.tokens .eof := by
  obtain ⟨e, he, hs⟩ := s.accepted
  obtain ⟨-, us, hus, h⟩ := recognizes_statement _ _ _ ⟨s.tokens, e, rfl, he⟩ hs
  obtain rfl := List.append_cancel_right hus
  rwa [ahead_cons, he] at h

theorem ne_eof : ∀ u ∈ s.tokens, u.kind ≠ .eof := by
  obtain ⟨e, he, hs⟩ := s.accepted
  obtain ⟨us, hus, hne⟩ := forward_statement _ ⟨s.tokens, e, rfl, he⟩
  rw [endState_of_ok hs] at hus
  obtain rfl := List.append_cancel_right hus
  exact hne

/-- What stands last in the statement. -/
def Ends (p : Ending) : Prop := EndsIn p .statement s.node s.tokens

/-- The kind of the first token that is no newline. -/
def first : Kind := ahead (s.tokens.dropWhile fun t => t.kind = .newline) .eof

theorem exists_first :
    ∃ ns v vs, s.tokens = ns ++ v :: vs ∧ Newlines ns ∧ v.kind = s.first ∧
      opensForm s.first = true := by
  have h := s.composes
  generalize ht : s.tokens = us at h
  cases h with
  | @statement _ ns vs _ hn h =>
    have ho := h.opens_form
    cases vs with
    | nil => exact absurd rfl (h.ne_nil rfl)
    | cons v vs =>
      have hv : v.kind ≠ .newline := ne_of_opensForm ho rfl
      have hf : s.first = v.kind := by
        rw [first, ht, List.dropWhile_append_of_pos (by simpa using hn),
          List.dropWhile_cons_of_neg (by simpa using hv)]
        rfl
      exact ⟨ns, v, vs, rfl, hn, hf.symm, by rwa [hf]⟩

/-- The sign closes the statement when a token of the given kind comes after it and after
newlines. -/
def ClosedBy (sign : Token) (next : Kind) : Prop :=
  (sign.kind = .semicolon → s.Ends .expression) ∧
    (sign.kind = .newline → s.Ends .decorators → next ≠ .atSign ∧ next ≠ .funcWord)

/-- A statement that the sign closes takes the sign and some of the newlines after it. -/
theorem absorbs (ht : t.kind = .newline ∨ t.kind = .semicolon) (hn : Newlines ns)
    (hj : resumes (ahead vs close) = false) (h : s.ClosedBy t (ahead vs close)) :
    ∃ ms rest, t :: (ns ++ vs) = ms ++ (rest ++ vs) ∧ Newlines rest ∧
      Composes .statement s.node (s.tokens ++ ms) (ahead (rest ++ vs) close) := by
  rcases ht with ht | ht
  · have htn : Newlines (t :: ns) := List.forall_mem_cons.mpr ⟨ht, hn⟩
    have hends :
        ∀ p, EndsIn p .statement s.node s.tokens → ¬ p.Clashes (t :: ns) (ahead vs close) := by
      intro p hp hc
      cases p with
      | expression | bareReturn => cases hc.1
      | decorators =>
        obtain ⟨ha, hf⟩ := h.2 ht hp
        exact hc.elim ha hf
    obtain ⟨ms, rest, hsplit, hs⟩ :=
      s.composes.absorbs_of_ends trivial htn (by rw [ahead_cons, ht]; rfl) hj hends
    rw [← List.cons_append, hsplit]
    rw [hsplit] at htn
    rw [← ahead_append] at hs
    exact ⟨ms, rest, List.append_assoc _ _ _, (List.forall_mem_append.mp htn).2, hs⟩
  · obtain ⟨ms, rest, rfl, hs⟩ := EndsIn.takes_semicolon (h.1 ht) ht hn hj
    exact ⟨t :: ms, rest, by simp, (List.forall_mem_append.mp hn).2, by simpa using hs⟩

/-- Lines do not begin with a statement that something after it clashes with. -/
theorem not_lined {p : Ending} (h : s.Ends p) (hp : p ≠ .expression) (hn : Newlines ns)
    (hc : p.Clashes ns (ahead us close)) :
    ¬ Lined close (s.node :: ss) (s.tokens ++ (ns ++ us)) := by
  intro hl
  obtain ⟨vs, ws, hsplit, hs, -⟩ := lined_cons.mp hl
  obtain ⟨r, rl, hr, hk⟩ := exists_head ws [] (kind_sample (k := close))
  obtain ⟨t, tl, ht, htk⟩ := exists_head us [] (kind_sample (k := close))
  have hread := hs.reads r rl hk
  rw [← hr, ← List.append_assoc, ← hsplit, List.append_assoc, List.append_assoc, ht] at hread
  have hd : s.tokens.length ≤ depthFor (s.tokens ++ (ns ++ t :: tl)) := by
    simp only [depthFor, List.length_append]
    omega
  exact EndsIn.misread h hp hn (by rwa [htk]) _ hd _ _ hread rfl

/-- A semicolon that the statement does not take would stand where the next statement begins. -/
theorem ends_expression (hss : ss ≠ []) (ht : t.kind = .semicolon)
    (h : Lined close (s.node :: ss) (s.tokens ++ t :: us)) : s.Ends .expression := by
  by_contra hends
  have hclash : ∀ p, EndsIn p .statement s.node s.tokens → ¬ p.Clashes [] .semicolon := by
    intro p hp hc
    cases p with
    | expression => exact hends hp
    | bareReturn => cases hc.2
    | decorators => rcases hc with hc | hc <;> cases hc
  have hs : Composes .statement s.node s.tokens (ahead (t :: us) close) := by
    obtain ⟨ms, rest, hnil, hs⟩ := s.composes.absorbs_of_ends trivial newlines_nil rfl rfl hclash
    obtain ⟨rfl, rfl⟩ := List.append_eq_nil_iff.mp hnil.symm
    rwa [List.append_nil, ahead_nil, ← ht] at hs
  obtain ⟨vs, ws, hsplit, hs', hws⟩ := lined_cons.mp h
  obtain rfl := hs.unique hs' hsplit
  obtain ⟨s', ss', rfl⟩ := List.exists_cons_of_ne_nil hss
  obtain ⟨xs, ys, hxs, hx, -⟩ := lined_cons.mp hws
  have hopens : t.kind = .newline ∨ opensForm t.kind = true := by
    have hahead : ahead xs (ahead ys close) = t.kind := by rw [← ahead_append, ← hxs, ahead_cons]
    rw [← hahead]
    exact hx.opens
  simp [ht, opensForm, Kind.opensExpression, Kind.opensPrimary, Kind.isSign] at hopens

/-- Lines go on after a statement and a sign exactly if the sign closes the statement. -/
theorem lined_iff (hss : ss ≠ []) (ht : t.kind = .newline ∨ t.kind = .semicolon) (hn : Newlines ns)
    (hj : resumes (ahead vs close) = false) :
    Lined close (s.node :: ss) (s.tokens ++ t :: (ns ++ vs)) ↔
      s.ClosedBy t (ahead vs close) ∧ Lined close ss (ns ++ vs) := by
  constructor
  · intro h
    have hclosed : s.ClosedBy t (ahead vs close) := by
      refine ⟨fun hsemi => s.ends_expression hss hsemi h, fun hnew hends => ?_⟩
      have htn : Newlines (t :: ns) := List.forall_mem_cons.mpr ⟨hnew, hn⟩
      exact not_or.mp fun hc => s.not_lined hends (by simp) htn hc h
    obtain ⟨us, ws, hsplit, hs, hws⟩ := lined_cons.mp h
    obtain ⟨ms, rest, hms, hrest, hs'⟩ := s.absorbs ht hn hj hclosed
    obtain rfl := hs'.unique hs (by rw [← hsplit, hms, List.append_assoc])
    rw [lined_newlines hn]
    rw [lined_newlines hrest] at hws
    exact ⟨hclosed, hws⟩
  · rintro ⟨hclosed, h⟩
    obtain ⟨ms, rest, hms, hrest, hs⟩ := s.absorbs ht hn hj hclosed
    rw [lined_newlines hn] at h
    refine lined_cons.mpr ⟨s.tokens ++ ms, rest ++ vs, by rw [hms, List.append_assoc], hs, ?_⟩
    rwa [lined_newlines hrest]

/-- A statement is a whole line, unless it ends in a bare return and a brace comes next. -/
theorem lined_last_iff (hc : close = .eof ∨ close = .rbrace) (hn : Newlines ns) :
    Lined close [s.node] (s.tokens ++ ns) ↔ (ns = [] → close = .rbrace → ¬ s.Ends .bareReturn) := by
  constructor
  · rintro h rfl rfl hends
    have hclash : Ending.bareReturn.Clashes [] (ahead [] .rbrace) := ⟨rfl, rfl⟩
    exact s.not_lined hends (by simp) newlines_nil hclash h
  · intro hbare
    have hends : ∀ p, EndsIn p .statement s.node s.tokens → ¬ p.Clashes ns close := by
      intro p hp hclash
      cases p with
      | expression => rcases hc with rfl | rfl <;> cases hclash.2
      | bareReturn => exact hbare hclash.1 hclash.2 hp
      | decorators => rcases hc with rfl | rfl <;> rcases hclash with h | h <;> cases h
    have hcl : closes (ahead ns close) = true := by
      cases ns with
      | nil => rcases hc with rfl | rfl <;> rfl
      | cons m ns =>
        rw [ahead_cons, hn m (by simp)]
        rfl
    have hj := resumes_of_closing hc.symm
    obtain ⟨ms, rest, rfl, hs⟩ := s.composes.absorbs_of_ends trivial hn hcl hj hends
    have hrest : Lined close [] rest :=
      lined_nil (ne_of_resumes hj rfl) (List.forall_mem_append.mp hn).2
    exact lined_cons.mpr ⟨s.tokens ++ ms, rest, by simp, hs, hrest⟩

end Sentence

/-- A sign that ends a statement. -/
abbrev Stop : Type := {t : Token // t.kind = .newline ∨ t.kind = .semicolon}

/-- Statements one after the other, with a sign after each but the last. -/
inductive Passage where
  | last (s : Sentence)
  | cons (s : Sentence) (sign : Stop) (rest : Passage)

namespace Passage

def nodes : Passage → List Node
  | last s => [s.node]
  | cons s _ rest => s.node :: rest.nodes

def tokens : Passage → List Token
  | last s => s.tokens
  | cons s sign rest => s.tokens ++ sign.val :: rest.tokens

/-- The first statement. -/
def head : Passage → Sentence
  | last s | cons s _ _ => s

/-- The last statement. -/
def final : Passage → Sentence
  | last s => s
  | cons _ _ rest => rest.final

/-- Every sign closes the statement in front of it. -/
def Fits : Passage → Prop
  | last _ => True
  | cons s sign rest => s.ClosedBy sign.val rest.head.first ∧ rest.Fits

theorem exists_first (p : Passage) :
    ∃ ns v vs, p.tokens = ns ++ v :: vs ∧ Newlines ns ∧ v.kind = p.head.first ∧
    opensForm p.head.first = true := by
  cases p with
  | last s => exact s.exists_first
  | cons s sign rest =>
    obtain ⟨ns, v, vs, ht, hn, hv, ho⟩ := s.exists_first
    exact ⟨ns, v, vs ++ sign.val :: rest.tokens, by simp [tokens, ht], hn, hv, ho⟩

theorem nodes_ne_nil (p : Passage) : p.nodes ≠ [] := by
  cases p <;> simp [nodes]

theorem ne_eof (p : Passage) : ∀ u ∈ p.tokens, u.kind ≠ .eof := by
  induction p with
  | last s => exact s.ne_eof
  | cons s sign rest ih =>
    have hsign : sign.val.kind ≠ .eof := by rcases sign.property with h | h <;> simp [h]
    exact List.forall_mem_append.mpr ⟨s.ne_eof, List.forall_mem_cons.mpr ⟨hsign, ih⟩⟩

/-- A passage is made of lines exactly if its signs fit, and the closing token its last
statement. -/
theorem lined_iff (p : Passage) (hc : close = .eof ∨ close = .rbrace) (hn : Newlines ns) :
    Lined close p.nodes (p.tokens ++ ns) ↔
      p.Fits ∧ (ns = [] → close = .rbrace → ¬ p.final.Ends .bareReturn) := by
  induction p with
  | last s =>
    rw [nodes, tokens, s.lined_last_iff hc hn]
    simp [Fits, final]
  | cons s sign rest ih =>
    obtain ⟨ms, v, vs, ht, hm, hv, ho⟩ := rest.exists_first
    have hj : resumes (ahead (v :: vs ++ ns) close) = false := by
      rw [List.cons_append, ahead_cons, hv]
      exact resumes_of_opensForm ho
    have hstep := s.lined_iff rest.nodes_ne_nil sign.property hm hj
    rw [← List.append_assoc, ← ht, ih] at hstep
    simpa [nodes, tokens, Fits, final, hv, and_assoc] using hstep

end Passage

section Closing

variable {o q : Token} {tl : List Token}

/-- Exactly lines between braces are read as a block. -/
theorem block_eq_ok_iff (ho : o.kind = .lbrace) (hq : q.kind = .rbrace) (he : Ended tl) :
    block (o :: (us ++ q :: tl)) = .ok ss tl ↔ Lined .rbrace ss us := by
  constructor
  · intro h
    obtain ⟨ws, f, hws, hf⟩ := he
    have hended : Ended (o :: (us ++ q :: tl)) := ⟨o :: (us ++ q :: ws), f, by simp [hws], hf⟩
    obtain ⟨-, vs, hsplit, hb⟩ := recognizes_blockOf recognizes_statement _ _ _ hended h
    have hvs : o :: (us ++ [q]) = vs := by
      rw [← List.append_cancel_right_eq _ tl]
      simpa using hsplit
    generalize ahead tl .eof = k at hb
    cases hb with
    | @braces _ o' q' ns vs _ _ hn hv hlines _ =>
      obtain ⟨-, hvs⟩ := List.cons.inj hvs
      rw [← List.append_assoc] at hvs
      obtain ⟨rfl, -⟩ := List.append_inj' hvs rfl
      exact .intro hn hv hlines
    | single _ hk =>
      rw [← hvs] at hk
      exact absurd ho hk
  · rintro ⟨hn, hu, h⟩
    obtain ⟨r, rl, rfl⟩ := he.exists_cons
    have hread := reads_blockOf_lines (k := r.kind) ho hn hu (h.reads_lines rfl (by decide)) hq
    simpa [block] using hread r rl rfl

/-- Statements with signs between them are read as themselves exactly if every sign closes the
statement in front of it. In a block the same holds with a newline before the closing brace; without
one, the last statement must not end in a bare return either. -/
theorem passage_read_iff (p : Passage) {e n : Token} (he : e.kind = .eof) (ho : o.kind = .lbrace)
    (hn : n.kind = .newline) (hq : q.kind = .rbrace) (hl : Ended tl) :
    (programOf (p.tokens ++ [e]) = .ok (.program p.nodes) ↔ p.Fits) ∧
      (block (o :: (p.tokens ++ n :: q :: tl)) = .ok p.nodes tl ↔ p.Fits) ∧
      (block (o :: (p.tokens ++ q :: tl)) = .ok p.nodes tl ↔
        p.Fits ∧ ¬ p.final.Ends .bareReturn) := by
  refine ⟨?_, ?_, ?_⟩
  · have hlined := p.lined_iff (.inl rfl) newlines_nil
    rw [List.append_nil, ← program_iff_lined] at hlined
    rw [programOf_eq_ok_iff p.ne_eof he]
    simpa using hlined
  · have hnew : Newlines [n] := List.forall_mem_singleton.mpr hn
    have hlined := p.lined_iff (.inr rfl) hnew
    rw [← block_eq_ok_iff ho hq hl] at hlined
    simpa using hlined
  · have hlined := p.lined_iff (.inr rfl) newlines_nil
    rw [← block_eq_ok_iff ho hq hl] at hlined
    simpa using hlined

theorem not_ends_expression {v : Option Node} (hk : ahead us .eof = .returnWord) :
    ¬ EndsIn .expression .statement (.returning v) us := by
  intro h
  cases h with
  | @statement _ _ ns vs hn h =>
    cases ns with
    | cons m ns => simp [hn m (by simp)] at hk
    | nil =>
      cases h with
      | expression h => exact ahead_ne_of_spells h rfl hk
      | definition h => cases h

/-- A return with a value and a number after it, with the given sign between them. -/
def returnAndNumber (sign : Stop) : Passage :=
  have hreturn :
      Composes .form (.returning (some (.number .null)))
        [sample .returnWord, sample .number] .eof :=
    .returning (.value rfl (spells_sample rfl))
  have hnumber : Composes .form (.number .null) [sample .number] .eof :=
    composes_expression (spells_sample rfl) (by decide) (by decide)
  .cons ⟨_, _, sample .eof, rfl, hreturn.ofForm.reads (sample .eof) [] rfl⟩ sign
    (.last ⟨_, _, sample .eof, rfl, hnumber.ofForm.reads (sample .eof) [] rfl⟩)

/-- A newline closes a return with a value, a semicolon does not. -/
theorem passage_read_return :
    programOf [sample .returnWord, sample .number, sample .newline, sample .number, sample .eof] =
        .ok (.program [.returning (some (.number .null)), .number .null]) ∧
      programOf [sample .returnWord, sample .number, sample .semicolon,
        sample .number, sample .eof] ≠
        .ok (.program [.returning (some (.number .null)), .number .null]) := by
  have hended : Ended [sample .eof] := ⟨[], sample .eof, rfl, rfl⟩
  have hread (sign : Stop) :=
    passage_read_iff (o := sample .lbrace) (n := sample .newline) (q := sample .rbrace)
      (returnAndNumber sign) (e := sample .eof) rfl rfl rfl rfl hended
  constructor
  · apply (hread ⟨sample .newline, .inl rfl⟩).1.mpr
    refine ⟨⟨?_, fun _ _ => by decide⟩, trivial⟩
    intro h
    cases h
  · intro h
    obtain ⟨hclosed, -⟩ := (hread ⟨sample .semicolon, .inr rfl⟩).1.mp h
    exact not_ends_expression rfl (hclosed.1 rfl)

end Closing

end FloScript.Parser
