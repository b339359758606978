import FloScript.Proofs.ClauseEnds
import FloScript.Proofs.Refusal

/-! Braces around one statement. The body of a loop or of a function is a block, and a statement on
a line of its own is the same block as this statement in braces: its end comes with the newline
after it, and neither the closing brace nor the end of the tokens can change it. -/
namespace FloScript.Parser

variable {us ns body : List Token} {j k : Kind} {make : List Node → Node} {head : List Token}
  {b : List Node} {n : Node}

section Headings

/-- Names with commas between them, and a closing parenthesis. -/
inductive NameList : List String → List Token → Prop where
  | nil {r : Token} : r.kind = .rparen → NameList [] [r]
  | last {x r : Token} : x.kind = .identifier → r.kind = .rparen → NameList [x.text] [x, r]
  | cons {x c : Token} {p : String} {ps : List String} {us : List Token} :
      x.kind = .identifier → c.kind = .comma → NameList (p :: ps) us →
        NameList (x.text :: p :: ps) (x :: c :: us)

theorem NameList.spells {ps : List String} (h : NameList ps us) (k : Kind) :
    Spells .parameters ps us k := by
  induction h with
  | nil hr => exact .nil hr
  | @last x r hx hr =>
    have hsep : Separator [] (ahead [r] k) := .nothing (by simp [hr])
    have hall : Spells .parameters [x.text] ([x] ++ ([] ++ ([] ++ [r]))) k :=
      .cons .name (by simp [hx]) (by simp) (.name hx) hsep newlines_nil
        (fun _ => rfl) (by simp) (.nil hr)
    exact hall
  | @cons x c p ps us hx hc _ ih =>
    have hall : Spells .parameters (x.text :: p :: ps) ([x] ++ ([c] ++ ([] ++ us))) k :=
      .cons .name (by simp [hx]) (by simp) (.name hx) (.comma hc) newlines_nil
        (fun _ => rfl) (by simp) ih
    exact hall

/-- What stands before the body of a loop, or of a function with a name and parameters in
parentheses. -/
inductive Heading : (List Node → Node) → List Token → Prop where
  | whileLoop {w : Token} {c : Node} {cs : List Token} :
      w.kind = .whileWord → Whole cs c → Heading (.whileLoop c) (w :: cs)
  | forLoop {f x : Token} {c : Node} {cs : List Token} :
      f.kind = .forWord → x.kind = .identifier → Whole cs c →
        Heading (.forLoop x.text c) (f :: x :: cs)
  | function {f x o : Token} {ps : List String} {us : List Token} :
      f.kind = .funcWord → x.kind = .identifier → o.kind = .lparen → NameList ps us →
      Heading (fun b => .function (some x.text) ps b false) (f :: x :: o :: us)

/-- A heading and a block on the next line or in braces are a statement. -/
theorem Heading.composes (h : Heading make head) (hk : ahead us k = .newline ∨ ahead us k = .lbrace)
    (hb : Composes .block b us k) : Composes .form (make b) (head ++ us) k := by
  have hcont : (ahead us k).continues = false := by rcases hk with hk | hk <;> rw [hk] <;> rfl
  have harrow : ahead us k ≠ .arrow := by rcases hk with hk | hk <;> rw [hk] <;> decide
  cases h with
  | whileLoop hw hc => exact .whileLoop hw ((whole_iff_spells.mp hc).before hcont) hb
  | forLoop hf hx hc => exact .forLoop hf hx ((whole_iff_spells.mp hc).before hcont) hb
  | @function f x o ps vs hf hx ho hps =>
    have hparts : ItemsPart .name ps (o :: vs) (ahead us k) := .given ho (hps.spells _)
    exact .definition (.blockFunction hf (.given hx) hparts harrow hb)

end Headings

section Bodies

variable {o m m' q e : Token}

/-- A statement is closed by a newline before a closing brace and before the end. It takes the
newline or leaves it. -/
theorem closed_by_newline (h : Composes .form n us .eof) (hm : m.kind = .newline)
    (hj : j = .eof ∨ j = .rbrace) :
    ∃ ms rest, [m] = ms ++ rest ∧ Newlines rest ∧ Composes .form n (us ++ ms) (ahead rest j) := by
  have hnewlines : Newlines [m] := by simpa [Newlines] using hm
  have hat : j ≠ .atSign ∧ j ≠ .funcWord := by rcases hj with rfl | rfl <;> decide
  have hresumes : resumes j = false := by rcases hj with rfl | rfl <;> rfl
  obtain ⟨ms, rest, hsplit, hform⟩ :=
    h.absorbs (fun _ _ _ => hat) trivial hnewlines (by simp) hresumes
  rw [hsplit] at hnewlines
  exact ⟨ms, rest, hsplit, (List.forall_mem_append.mp hnewlines).2, hform⟩

/-- A statement in braces, on a line of its own. -/
theorem composes_braces (h : Composes .form n us .eof) (hn : Newlines ns) (ho : o.kind = .lbrace)
    (hm : m.kind = .newline) (hm' : m'.kind = .newline) (hq : q.kind = .rbrace) :
    Composes .block [n] (o :: m :: (ns ++ us ++ [m', q])) k := by
  obtain ⟨ms, rest, hsplit, hrest, hform⟩ := closed_by_newline h hm' (.inr rfl)
  have hlines : Composes (.lines .rbrace) [n] ((us ++ ms) ++ (rest ++ [])) .rbrace :=
    .cons (by simpa using hform.ofForm) hrest (by decide) .nil
  rw [List.append_nil, List.append_assoc, ← hsplit] at hlines
  have hopen : ahead (us ++ [m']) .rbrace ≠ .newline := by
    rw [ahead_filled (h.ne_nil rfl)]
    exact ne_of_opensForm h.opens_form rfl
  have hnewlines : Newlines (m :: ns) := List.forall_mem_cons.mpr ⟨hm, hn⟩
  simpa using Composes.braces (k := k) ho hnewlines hopen hlines hq

/-- A heading with a statement on the next line is a program. -/
theorem Heading.program_line (h : Heading make head)
    (hs : Composes .form n us .eof) (hn : Newlines ns) (hm : m.kind = .newline)
    (hm' : m'.kind = .newline) :
    Program [make [n]] (head ++ m :: (ns ++ us ++ [m'])) := by
  obtain ⟨ms, rest, hsplit, hrest, hform⟩ := closed_by_newline hs hm' (.inl rfl)
  have hnewlines : Newlines (m :: ns) := List.forall_mem_cons.mpr ⟨hm, hn⟩
  have hblock : Composes .block [n] ((m :: ns) ++ (us ++ ms)) (ahead rest .eof) :=
    .single (.statement hnewlines hform) (by simp [hm])
  have hwhole := h.composes (.inl (by simp [hm])) hblock
  have hend : Program [] rest := by
    have hp : Program [] (rest ++ []) := .intro hrest (by decide) .nil
    rwa [List.append_nil] at hp
  have hp := program_cons hwhole hend
  rw [hsplit]
  simpa using hp

/-- Under a heading, a statement on the next line and the same statement in braces give the same
program. -/
theorem braces_optional (h : Heading make head) (he : e.kind = .eof)
    (hs : statement (body ++ [e]) = .ok n [e]) :
    (∀ m m' e, m.kind = .newline → m'.kind = .newline → e.kind = .eof →
      programOf (head ++ m :: (body ++ [m', e])) = .ok (.program [make [n]])) ∧
    ∀ o m m' q e, o.kind = .lbrace → m.kind = .newline → m'.kind = .newline →
      q.kind = .rbrace → e.kind = .eof →
      programOf (head ++ o :: m :: (body ++ [m', q, e])) = .ok (.program [make [n]]) := by
  obtain ⟨-, us, hus, hstatement⟩ := recognizes_statement _ _ _ ⟨body, e, rfl, he⟩ hs
  rw [ahead_cons, he] at hstatement
  obtain rfl : body = us := List.append_cancel_right hus
  cases hstatement with
  | @statement _ ns us _ hn hform =>
    constructor
    · intro m m' e hm hm' he
      simpa using (h.program_line hform hn hm hm').programOf_eq he []
    · intro o m m' q e ho hm hm' hq he
      have hblock := composes_braces (k := .eof) hform hn ho hm hm' hq
      have hp := program_statement (h.composes (.inr (by simp [ho])) hblock)
      simpa using hp.programOf_eq he []

theorem braces_optional_dict :
    statement [sample .lbrace, sample .rbrace, sample .eof] = .ok (.dict []) [sample .eof] ∧
      programOf [sample .whileWord, sample .trueWord, sample .newline, sample .lbrace,
        sample .rbrace, sample .newline, sample .eof] =
          .ok (.program [.whileLoop (.boolean (.bool true)) [.dict []]]) ∧
      programOf [sample .whileWord, sample .trueWord, sample .lbrace, sample .newline,
        sample .lbrace, sample .rbrace, sample .newline, sample .rbrace, sample .eof] =
          .ok (.program [.whileLoop (.boolean (.bool true)) [.dict []]]) := by
  have hheading :
      Heading (.whileLoop (.boolean (.bool true))) [sample .whileWord, sample .trueWord] :=
    .whileLoop rfl (whole_leaf rfl)
  have hbody :
      statement ([sample .lbrace, sample .rbrace] ++ [sample .eof]) =
        .ok (.dict []) [sample .eof] := rfl
  obtain ⟨hline, hbraces⟩ := braces_optional hheading rfl hbody
  exact ⟨hbody, hline (sample .newline) (sample .newline) (sample .eof) rfl rfl rfl,
    hbraces (sample .lbrace) (sample .newline) (sample .newline) (sample .rbrace)
      (sample .eof) rfl rfl rfl rfl rfl⟩

end Bodies

end FloScript.Parser
