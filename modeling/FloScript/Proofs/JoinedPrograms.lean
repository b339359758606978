import FloScript.Proofs.ClauseEnds
import FloScript.Proofs.JoinedTexts

/-! Programs joined by a newline. Where tokens stand does not matter to what they compose, and lines
go on with other lines after newlines. -/
namespace FloScript.Parser

variable {j k : Kind} {n : Nat} {us vs ns : List Token}

section Places

@[simp] theorem kind_down (t : Token) : (t.down n).kind = t.kind := rfl

@[simp] theorem ahead_down : ahead (us.map (Token.down n)) k = ahead us k := by
  cases us <;> rfl

theorem Newlines.down (h : Newlines ns) : Newlines (ns.map (Token.down n)) := by
  simpa [Newlines] using h

theorem Separator.down (h : Separator us k) : Separator (us.map (Token.down n)) k := by
  cases h with
  | comma hc => exact .comma hc
  | nothing hk => exact .nothing hk

theorem Spells.down {s : Shape} {c : Phrase s} {a : s.Carrier} (h : Spells c a us k) :
    Spells c a (us.map (Token.down n)) k := by
  induction h with
  | assignment _ he _ ihu ihv =>
    rw [List.map_append]
    exact .assignment ihu he ihv
  | value _ hk ih => exact .value ih hk
  | choice _ hq _ hs _ ihc iha ihb =>
    rw [List.map_append, List.map_cons, List.map_append]
    exact .choice ihc hq iha hs ihb
  | operation _ hk ih => exact .operation ih hk
  | operand _ ih => exact .operand ih
  | @binary _ _ _ _ _ o _ _ ho _ ihl ihr =>
    rw [List.map_append]
    exact .binary (o := o.down n) ihl ho ihr
  | level _ hk ih => exact .level ih hk
  | @unary o _ _ _ ho _ ih => exact .unary (o := o.down n) ho ih
  | await ho _ ih => exact .await ho ih
  | accessed _ hk ih => exact .accessed ih hk
  | base _ ih => exact .base ih
  | @member _ _ _ x _ _ hd hx ih =>
    rw [List.map_append]
    exact .member (x := x.down n) ih hd hx
  | call _ ho _ ihe ihx =>
    rw [List.map_append]
    exact .call ihe ho ihx
  | index _ ho _ hc ihe ihi =>
    rw [List.map_append, List.map_cons, List.map_append]
    exact .index ihe ho ihi hc
  | leaf h => exact .leaf h
  | parenthesized ho _ hi hc ih =>
    rw [List.map_cons, List.map_append]
    exact .parenthesized ho ih (by simpa using hi) hc
  | skipped ho _ hv _ hc ihp ih =>
    rw [List.map_cons, List.map_append, List.map_append]
    exact .skipped ho (by simpa using ihp) (by simpa using hv) ih hc
  | lambda ho _ ha _ ihp ih =>
    rw [List.map_cons, List.map_append]
    exact .lambda ho ihp ha ih
  | thunk ha _ ih => exact .thunk ha ih
  | list ho hn hu _ ih =>
    rw [List.map_cons, List.map_append]
    exact .list ho (Newlines.down hn) (by simpa using hu) ih
  | dict ho hn hu _ ih =>
    rw [List.map_cons, List.map_append]
    exact .dict ho (Newlines.down hn) (by simpa using hu) ih
  | @name x _ hx => exact .name (x := x.down n) hx
  | @named x _ _ _ _ hx hc _ ih => exact .named (x := x.down n) hx hc ih
  | keyed _ hi hc _ ihk ihv =>
    rw [List.map_append]
    exact .keyed ihk (by simpa using hi) hc ihv
  | nil hc => exact .nil hc
  | cons hi hc hl _ hs hn hf hv _ ihx ihs =>
    simp only [List.map_append]
    refine .cons hi ?_ ?_ ?_ ?_ (Newlines.down hn) ?_ ?_ ihs
    · simpa using hc
    · simpa using hl
    · simpa using ihx
    · simpa using hs.down (n := n)
    · intro hl
      simp [hf hl]
    · simpa using hv

theorem NamePart.down {x : Option String} (h : NamePart x us k) :
    NamePart x (us.map (Token.down n)) k := by
  cases h with
  | @given x _ hx => exact .given (x := x.down n) hx
  | absent hk => exact .absent hk

theorem ItemsPart.down {s : Shape} {item : Phrase s} {xs : List s.Carrier}
    (h : ItemsPart item xs us k) :
    ItemsPart item xs (us.map (Token.down n)) k := by
  cases h with
  | given ho h => exact .given ho h.down
  | absent hk => exact .absent hk

theorem Returns.down {t : Node} (h : Returns t us k) : Returns t (us.map (Token.down n)) k := by
  cases h with
  | nothing hr hk => exact .nothing hr hk
  | value hr h => exact .value hr h.down

theorem ArrowBranch.down {b : List Node} (h : ArrowBranch b us k) :
    ArrowBranch b (us.map (Token.down n)) k := by
  cases h with
  | returning h => exact .returning h.down
  | expression h => exact .expression h.down

theorem ArrowElse.down {b : Option (List Node)} (h : ArrowElse b us k) :
    ArrowElse b (us.map (Token.down n)) k := by
  cases h with
  | absent hn hk he => exact .absent hn.down hk he
  | dropped hn hl hk =>
    rw [List.map_append]
    exact .dropped hn.down hl hk
  | given hn hl ho h =>
    rw [List.map_append]
    exact .given hn.down hl ho h.down

theorem Terminator.down (h : Terminator us k) : Terminator (us.map (Token.down n)) k := by
  cases h with
  | sign hc => exact .sign hc
  | nothing hs hn => exact .nothing hs hn

theorem Decorators.down {ds : List Node} (h : Decorators ds us k) :
    Decorators ds (us.map (Token.down n)) k := by
  induction h with
  | nil hk => exact .nil hk
  | @cons _ _ _ x _ _ _ _ ha hx hi hn hk _ ih =>
    simp only [List.map_cons, List.map_append]
    refine .cons (x := x.down n) ha hx ?_ hn.down (by simpa using hk) ih
    simpa using hi.down (n := n)

theorem Composes.down {c : Clause} {a : c.Carrier} (h : Composes c a us k) :
    Composes c a (us.map (Token.down n)) k := by
  induction h with
  | statement hn _ ih =>
    rw [List.map_append]
    exact .statement hn.down ih
  | expression h ht =>
    rw [List.map_append]
    exact .expression (by simpa using h.down (n := n)) ht.down
  | returning h => exact .returning h.down
  | arrowIf hi h ho hb hno =>
    simp only [List.map_cons, List.map_append]
    exact .arrowIf hi h.down ho (by simpa using hb.down (n := n)) hno.down
  | blockIf hi h hk _ _ ihb ihno =>
    simp only [List.map_cons, List.map_append]
    exact .blockIf hi (by simpa using h.down (n := n)) (by simpa using hk) (by simpa using ihb) ihno
  | whileLoop hw h _ ih =>
    rw [List.map_cons, List.map_append]
    exact .whileLoop hw (by simpa using h.down (n := n)) ih
  | @forLoop _ _ _ x _ _ _ hf hx h _ ih =>
    rw [List.map_cons, List.map_cons, List.map_append]
    exact .forLoop (x := x.down n) hf hx (by simpa using h.down (n := n)) ih
  | trying ht _ _ _ ihb ihh ihf =>
    simp only [List.map_cons, List.map_append]
    exact .trying ht (by simpa using ihb) (by simpa using ihh) ihf
  | definition _ ih => exact .definition ih
  | decorated hd _ ih =>
    rw [List.map_append]
    exact .decorated (by simpa using hd.down (n := n)) ih
  | decorator hd hk => exact .decorator hd.down hk
  | decorators hd hk => exact .decorators hd.down hk
  | arrowFunction hf hx hp ha h =>
    simp only [List.map_cons, List.map_append]
    exact .arrowFunction hf (by simpa using hx.down (n := n)) hp.down ha h.down
  | blockFunction hf hx hp hk _ ih =>
    simp only [List.map_cons, List.map_append]
    exact .blockFunction hf (by simpa using hx.down (n := n)) (by simpa using hp.down (n := n))
      (by simpa using hk) ih
  | braces ho hn hk _ hq ih =>
    simp only [List.map_cons, List.map_append]
    exact .braces ho hn.down (by simpa using hk) ih hq
  | single _ hk ih => exact .single ih (by simpa using hk)
  | nil => exact .nil
  | cons _ hn hk _ ihs ihss =>
    simp only [List.map_append]
    exact .cons (by simpa using ihs) hn.down (by simpa using hk) ihss
  | without hn hk hw => exact .without hn.down hk hw
  | after hn hl _ ih =>
    rw [List.map_append]
    exact .after hn.down hl ih
  | uncaught hn hk hw => exact .uncaught hn.down hk hw
  | caught hn hl hx _ ih =>
    simp only [List.map_cons, List.map_append]
    exact .caught hn.down hl (by simpa using hx.down (n := n)) ih

theorem Program.down {ss : List Node} (h : Program ss us) : Program ss (us.map (Token.down n)) := by
  cases h with
  | intro hn hk h =>
    rw [List.map_append]
    exact .intro hn.down (by simpa using hk) h.down

end Places

section Newlines

theorem resumes_of_opensForm (h : opensForm k = true) : resumes k = false := by
  revert h
  cases k <;> decide

theorem lines_ne_nil {s : Node} {ss : List Node} (h : Composes (.lines j) (s :: ss) us k) :
    us ≠ [] := by
  cases h with
  | cons h => simp [h.ne_nil rfl]

/-- What lines begin with goes on with nothing before it. -/
theorem resumes_ahead {ss : List Node} (h : Composes (.lines .eof) ss us .eof)
    (hu : ahead us .eof ≠ .newline) :
    resumes (ahead us .eof) = false := by
  cases h with
  | nil => rfl
  | @cons _ s ss us ms vs h =>
    rw [ahead_append] at hu ⊢
    obtain ho | ho : _ ∨ _ := h.opens
    · exact absurd ho hu
    · exact resumes_of_opensForm ho

/-- Lines go on with other lines after newlines. -/
theorem lines_append {s : Node} {ss ts : List Node} (h : Composes (.lines .eof) (s :: ss) us .eof)
    (hat : ∀ u ∈ us, u.kind ≠ .atSign) (hn : Newlines ns) (hne : ns ≠ [])
    (hv : ahead vs .eof ≠ .newline) (hl : Composes (.lines .eof) ts vs .eof) :
    Composes (.lines .eof) (s :: ss ++ ts) (us ++ (ns ++ vs)) .eof := by
  induction ss generalizing s us with
  | nil =>
    cases h with
    | @cons _ _ _ us ms ws hs hm _ hnil =>
      cases hnil
      rw [List.append_nil] at hs ⊢
      cases ms with
      | nil =>
        -- the statement ends with the tokens, and takes some of the newlines instead
        have hs' := hs.absorbs (fun u hu hk => absurd hk (hat u (by simp [hu]))) trivial hn hne
          (resumes_ahead hl hv)
        obtain ⟨ms, rest, rfl, hs'⟩ := hs'
        obtain ⟨-, hrest⟩ := List.forall_mem_append.mp hn
        rw [← ahead_append] at hs'
        simpa using Composes.cons hs' hrest hv hl
      | cons m ms =>
        have hc : Composes (.lines .eof) (s :: ts) (us ++ ((m :: ms ++ ns) ++ vs)) .eof :=
          .cons hs (hm.append hn) hv hl
        simpa using hc
  | cons t ss ih =>
    cases h with
    | @cons _ _ _ us ms ws hs hm hk hrest =>
      have hws := lines_ne_nil hrest
      have hih := ih hrest (fun u hu => hat u (by simp [hu]))
      have hs' : Composes .statement s us (ahead (ms ++ (ws ++ (ns ++ vs))) .eof) := by
        rwa [ahead_append, ahead_filled hws, ← ahead_append]
      have hc := Composes.cons hs' hm (by rwa [ahead_filled hws]) hih
      simpa using hc

/-- A program, a newline and another program are a program. -/
theorem Program.join {ss ts : List Node} {e : Token} (h : Program ss us)
    (hat : ∀ u ∈ us, u.kind ≠ .atSign) (he : e.kind = .newline) (h' : Program ts vs) :
    Program (ss ++ ts) (us ++ e :: vs) := by
  cases h with
  | @intro ms us hm hk h =>
    cases h' with
    | @intro ns vs hn hv hl =>
      have hen : Newlines (e :: ns) := List.forall_mem_cons.mpr ⟨he, hn⟩
      cases ss with
      | nil =>
        cases h
        have hp := Program.intro (hm.append hen) hv hl
        simpa using hp
      | cons s ss =>
        have hlines := lines_append h (fun u hu => hat u (by simp [hu])) hen (by simp) hv hl
        have hp := Program.intro hm (by rwa [ahead_filled (lines_ne_nil h)]) hlines
        simpa using hp

end Newlines

end FloScript.Parser
