import Mathlib.Data.List.Forall2
import FloScript.Proofs.Tiling

/-! Texts written anew. The tokens of a text depend on its lexemes and on their order alone: with
other blanks and other comments between them, the same lexemes are read as the same tokens. -/
namespace FloScript.Scanner

variable {s : Scanner} {d : Char} {cs gap rest text word : List Char}
  {words : List (List Char)} {kind : Kind} {value : Except Fault Literal}

/-- The characters of a text that are its token `t`. -/
def LexemeIn (text : List Char) (t : Token) (word : List Char) : Prop :=
  ∃ start stop, Tile text t start stop ∧ word = text.extract start stop

/-- The words in order, each with a gap after it; between two words the gap is not empty. -/
inductive Spaced : List (List Char) → List Char → Prop where
  | nil : Spaced [] []
  | cons {word gap text : List Char} {words : List (List Char)} :
      Gap gap text → (words ≠ [] → gap ≠ []) → Spaced words text →
        Spaced (word :: words) (word ++ (gap ++ text))

/-- The text consists of the words with gaps between them; a gap may also stand before the first
word. -/
def Respaced (words : List (List Char)) (text : List Char) : Prop :=
  ∃ gap rest, text = gap ++ rest ∧ Gap gap rest ∧ Spaced words rest

section Separation

/-- Nothing, or what begins with a blank or a comment. -/
def Parted (rest : List Char) : Prop := ∀ c ∈ rest.head?, isGap c = true ∨ c = '#'

theorem Gap.parted (h : Gap gap rest) (hne : rest ≠ [] → gap ≠ []) : Parted (gap ++ rest) := by
  obtain ⟨blanks, comment, rfl, hblanks, hcomment⟩ := h
  intro c hc
  cases blanks with
  | cons d blanks =>
    obtain rfl : d = c := by simpa using hc
    exact .inl (hblanks d (by simp))
  | nil =>
    rcases hcomment with rfl | ⟨hhead, -, -⟩
    · cases rest with
      | nil => cases hc
      | cons d rest => exact absurd rfl (hne (by simp))
    · cases comment with
      | nil => cases hhead
      | cons d comment =>
        obtain rfl : d = c := by simpa using hc
        exact .inr (by simpa using hhead)

/-- The characters that part lexemes go on with none but a string. -/
structure Parts (d : Char) : Prop where
  line : d ≠ '\n'
  point : d ≠ '.'
  digit : Text.isDigit d = false
  word : Text.isWordChar d = false
  pair : ∀ c, Kind.pairOperator? c d = none

theorem parts_of_parting (h : isGap d = true ∨ d = '#') : Parts d := by
  simp only [isGap, Bool.or_eq_true, decide_eq_true_eq] at h
  have hpair (e : Char) (he : e ≠ '>' ∧ e ≠ '=' ∧ e ≠ '&' ∧ e ≠ '|') (c : Char) :
      Kind.pairOperator? c e = none := by
    unfold Kind.pairOperator?
    split <;> simp_all
  rcases h with ((rfl | rfl) | rfl) | rfl <;>
    exact ⟨by decide, by decide, by decide, by decide, hpair _ (by decide)⟩

/-- What begins with a quote is a string. -/
theorem Spelling.quotes {q : Char} (hq : q = '\x22' ∨ q = '\x27')
    (h : Spelling (q :: cs) kind value) :
    ∃ body v, Quotes q body v ∧ cs = body ++ [q] := by
  cases h with
  | newline => rcases hq with hq | hq <;> cases hq
  | string _ hbody => exact ⟨_, _, hbody, rfl⟩
  | number hc => rcases hq with rfl | rfl <;> exact absurd hc (by decide)
  | word hc => rcases hq with rfl | rfl <;> exact absurd hc (by decide)
  | pair hk => exact absurd (by simpa using hq) (isSign_of_pair hk).quote
  | single hk => exact absurd (by simpa using hq) (isSign_of_operator hk).quote

/-- A string ends at the first quote that is not escaped, so no string begins with another one. -/
theorem Quotes.unique {q : Char} {body body' v v' : List Char} (hq : q ≠ '\\') (h : Quotes q body v)
    (h' : Quotes q body' v') (hs : body ++ [q] = body' ++ q :: rest) : rest = [] := by
  have hread := stringBody_quotes hq h []
  rw [hs, stringBody_quotes hq h' rest] at hread
  have hlength :
      body'.length = body.length := by simpa using congrArg (fun r => r.map Prod.snd) hread
  have hall := congrArg List.length hs
  simp only [List.length_append, List.length_cons, List.length_nil] at hall
  exact List.length_eq_zero_iff.mp (by omega)

/-- A lexeme is as long as it can be wherever a blank or a comment follows. -/
theorem Spelling.longest (h : Spelling word kind value) (hp : Parted rest) : Longest word rest := by
  rintro more ⟨tail, rfl⟩ hne kind' value' hspell
  obtain ⟨c, cs, rfl⟩ := List.exists_cons_of_ne_nil h.ne_nil
  obtain ⟨d, ds, rfl⟩ := List.exists_cons_of_ne_nil hne
  have hd : Parts d := parts_of_parting (hp d rfl)
  generalize hlex : c :: cs ++ d :: ds = lex at hspell
  rw [List.cons_append] at hlex
  cases hspell with
  | newline | single => simp at hlex
  | @string q body v hq hbody =>
    obtain ⟨rfl, hcs⟩ := List.cons.inj hlex
    obtain ⟨body', v', hbody', rfl⟩ := h.quotes hq
    have hslash : c ≠ '\\' := by rcases hq with rfl | rfl <;> decide
    rw [List.append_assoc, List.singleton_append] at hcs
    cases hbody.unique hslash hbody' hcs.symm
  | number _ hall =>
    obtain ⟨-, rfl⟩ := List.cons.inj hlex
    rcases hall d (by simp) with hpoint | hdigit
    · exact hd.point hpoint
    · simp [hd.digit] at hdigit
  | word _ _ hall =>
    obtain ⟨-, rfl⟩ := List.cons.inj hlex
    simpa [hd.word] using hall d (by simp)
  | pair hk =>
    cases cs with
    | nil =>
      obtain ⟨rfl, hds⟩ := List.cons.inj hlex
      obtain ⟨rfl, -⟩ := List.cons.inj hds
      rw [hd.pair] at hk
      cases hk
    | cons e cs => simp at hlex

end Separation

section Runs

/-- Words that spell lexemes are read as these, with any gaps between them. -/
theorem comes_of_spaced {ls : List Lexeme} (h : Spaced words text)
    (hw : List.Forall₂ (fun (l : Lexeme) word => Spelling word l.1 (.ok l.2)) ls words)
    (hr : s.rest = text) :
    ∃ t us, Comes s t ∧ t.rest = [] ∧ t.tokens.toList = s.tokens.toList ++ us ∧
      us.map Token.lexeme = ls := by
  induction h generalizing s ls with
  | nil =>
    cases hw
    exact ⟨s, [], .refl s, hr, by simp, rfl⟩
  | @cons word gap text words hgap hne hspaced ih =>
    obtain ⟨l, ls, hspell, hwords, rfl⟩ := List.forall₂_cons_right_iff.mp hw
    have hparted : Parted (gap ++ text) := by
      refine hgap.parted fun htext => hne ?_
      rintro rfl
      cases hspaced
      exact htext rfl
    have hpiece := hspell.piece (hspell.longest hparted)
    rw [← hr] at hpiece
    have hread : (s.take word.length (some l)).rest = gap ++ text := by
      rw [rest_take, hr, List.drop_left]
    have hnext : ((s.take word.length (some l)).skip gap.length).rest = text := by
      rw [rest_skip, hread, List.drop_left]
    obtain ⟨t, us, hcomes, hend, htokens, hus⟩ := ih hwords hnext
    refine ⟨t, l.token s.place :: us,
      ((comes_of_piece hpiece).trans (hgap.comes hread)).trans hcomes, hend, ?_, ?_⟩
    · rw [htokens, tokens_skip]
      simp [Scanner.take]
    · rw [List.map_cons, hus, Lexeme.lexeme_token]

theorem tokensOf_of_respaced {ls : List Lexeme} {source : String} (h : Respaced words source.toList)
    (hw : List.Forall₂ (fun (l : Lexeme) word => Spelling word l.1 (.ok l.2)) ls words) :
    ∃ ts, tokensOf source = .ok ts ∧ ts.map Token.lexeme = ls ++ [(.eof, .null)] := by
  obtain ⟨gap, rest, hsource, hgap, hspaced⟩ := h
  have hr : (ofSource source).rest = gap ++ rest := hsource
  have hfirst := hgap.comes hr
  obtain ⟨t, us, hcomes, hend, htokens, rfl⟩ := comes_of_spaced hspaced hw
    (s := (ofSource source).skip gap.length) (by rw [rest_skip, hr, List.drop_left])
  refine ⟨_, tokensOf_eq_ok_iff.mpr ⟨t, hfirst.trans hcomes, hend, rfl⟩, ?_⟩
  rw [htokens, tokens_skip]
  simp [ofSource, Token.lexeme]

/-- The tokens of a text have their words in it, up to the end mark. -/
theorem Tiles.lexemesIn {n : Nat} {ts : List Token} (h : Tiles text n ts) :
    ∃ us words, ts = us ++ [⟨.eof, .null, Position.behind text⟩] ∧
      List.Forall₂ (LexemeIn text) us words := by
  induction h with
  | last => exact ⟨[], [], rfl, .nil⟩
  | @next n start stop t ts _ _ ht _ ih =>
    obtain ⟨us, words, rfl, hwords⟩ := ih
    exact ⟨t :: us, text.extract start stop :: words, rfl, .cons ⟨start, stop, ht, rfl⟩ hwords⟩

/-- The tokens of a text before its end mark are found in it as words. Any text that consists of
these words in order, with gaps between them, is read as tokens of the same kinds and values. -/
theorem tokensOf_respaced {source : String} {ts : List Token} (h : tokensOf source = .ok ts) :
    ∃ us e, ts = us ++ [e] ∧ e.kind = .eof ∧
      (∃ words, List.Forall₂ (LexemeIn source.toList) us words) ∧
      ∀ words, List.Forall₂ (LexemeIn source.toList) us words → ∀ text : String,
      Respaced words text.toList →
        ∃ vs, tokensOf text = .ok vs ∧ vs.map Token.lexeme = ts.map Token.lexeme := by
  obtain ⟨t, hcomes, hend, rfl⟩ := tokensOf_eq_ok_iff.mp h
  obtain ⟨us, hus, htiles⟩ :=
    tiles_of_comes hcomes hend (reached_start source) (Nat.le_refl 0) (Gap.nil _)
  obtain ⟨vs, words, hvs, hwords⟩ := htiles.lexemesIn
  obtain ⟨rfl, -⟩ := List.append_inj' hvs rfl
  have htokens : t.tokens.toList = us := by simpa [ofSource] using hus
  rw [htokens]
  refine ⟨us, _, rfl, rfl, ⟨words, hwords⟩, fun words hwords text htext => ?_⟩
  have hspell :
      List.Forall₂ (fun (l : Lexeme) word => Spelling word l.1 (.ok l.2))
        (us.map Token.lexeme) words := by
    refine List.forall₂_map_left_iff.mpr (hwords.imp ?_)
    rintro u word ⟨start, stop, htile, rfl⟩
    exact htile.spelling
  obtain ⟨ws, hws, hmap⟩ := tokensOf_of_respaced htext hspell
  exact ⟨ws, hws, by simp [hmap, Token.lexeme]⟩

/-- A sign that begins another one, a string with the sign of a comment in it, and a comment with a
quote in it. -/
theorem tokensOf_respaced_comparison :
    tokensOf "x==\n'#'" = .ok [⟨.identifier, .text "x", ⟨1, 1⟩⟩, ⟨.equal, .text "==", ⟨1, 2⟩⟩,
        ⟨.newline, .text "\n", ⟨1, 4⟩⟩, ⟨.string, .text "#", ⟨2, 1⟩⟩, ⟨.eof, .null, ⟨2, 4⟩⟩] ∧
      ∃ vs, tokensOf " x == #'\n\t'#'" = .ok vs ∧ vs.map Token.lexeme = [(.identifier, .text "x"),
        (.equal, .text "=="), (.newline, .text "\n"), (.string, .text "#"), (.eof, .null)] := by
  let text := "x==\n'#'".toList
  have hread :
      tokensOf "x==\n'#'" =
        .ok ([⟨.identifier, .text "x", ⟨1, 1⟩⟩, ⟨.equal, .text "==", ⟨1, 2⟩⟩,
          ⟨.newline, .text "\n", ⟨1, 4⟩⟩, ⟨.string, .text "#", ⟨2, 1⟩⟩] ++
            [⟨.eof, .null, ⟨2, 4⟩⟩]) := rfl
  obtain ⟨us, e, hts, -, -, hrespaced⟩ := tokensOf_respaced hread
  obtain ⟨rfl, -⟩ := List.append_inj' hts rfl
  have hat (n : Nat) (hn : n ≤ 7) :
      Reached text n ⟨text, text.drop n, n, Position.behind (text.take n), #[]⟩ :=
    ⟨hn, rfl, rfl⟩
  have hwords : List.Forall₂ (LexemeIn text)
      [⟨.identifier, .text "x", ⟨1, 1⟩⟩, ⟨.equal, .text "==", ⟨1, 2⟩⟩,
        ⟨.newline, .text "\n", ⟨1, 4⟩⟩,
        ⟨.string, .text "#", ⟨2, 1⟩⟩] [['x'], ['=', '='], ['\n'], ['\x27', '#', '\x27']] := by
    refine .cons ⟨0, 1, (hat 0 (by decide)).tile (l := .plain .identifier "x") rfl, rfl⟩ ?_
    refine .cons ⟨1, 3, (hat 1 (by decide)).tile (l := .plain .equal "==") rfl, rfl⟩ ?_
    refine .cons ⟨3, 4, (hat 3 (by decide)).tile (l := .plain .newline "\n") rfl, rfl⟩ ?_
    exact .cons ⟨4, 7, (hat 4 (by decide)).tile (l := .plain .string "#") rfl, rfl⟩ .nil
  have hblank (c : Char) (hc : isGap c = true) (rest : List Char) : Gap [c] rest :=
    ⟨[c], [], rfl, by simpa using hc, .inl rfl⟩
  have hcomment (rest : List Char) : Gap [' ', '#', '\x27'] ('\n' :: rest) :=
    ⟨[' '], ['#', '\x27'], rfl, List.forall_mem_singleton.mpr rfl,
      .inr ⟨rfl, by decide, by simp [Breaks]⟩⟩
  have hspaced :
      Spaced [['x'], ['=', '='], ['\n'], ['\x27', '#', '\x27']] "x == #'\n\t'#'".toList := by
    refine @Spaced.cons ['x'] [' '] _ _ (hblank ' ' rfl _) (by simp) ?_
    refine @Spaced.cons ['=', '='] [' ', '#', '\x27'] _ _ (hcomment _) (by simp) ?_
    refine @Spaced.cons ['\n'] ['\t'] _ _ (hblank '\t' rfl _) (by simp) ?_
    exact @Spaced.cons ['\x27', '#', '\x27'] [] _ _ (Gap.nil _) (by simp) .nil
  exact ⟨hread, hrespaced _ hwords _ ⟨[' '], _, rfl, hblank ' ' rfl _, hspaced⟩⟩

end Runs

end FloScript.Scanner
