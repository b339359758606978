import FloScript.Proofs.ScanFaults

/-! What is kept of a text that cannot be read. Reading stops at a flaw, and the tokens read on the
way are those of the text before the flaw: a run depends on nothing behind the place to which it has
come. -/
namespace FloScript.Scanner

variable {r s t u : Scanner} {c d q : Char} {cs inner rest tail text xs : List Char}
  {n : Nat} {l : Option Lexeme} {f : Fault}

section Cutting

/-- What is read does not depend on what stands behind it. -/
theorem piece?_of_append (h : piece? (text ++ tail) = some (n, l)) (hn : n ≤ text.length) :
    piece? text = some (n, l) := by
  cases l with
  | none =>
    obtain ⟨hpos, -, -⟩ := piece?_spec h
    cases text with
    | nil => simp at hn; omega
    | cons c cs =>
      obtain ⟨⟨ds, hhash⟩, -, -⟩ := comment_of_piece h
      obtain ⟨rfl, -⟩ := List.cons.inj hhash
      have hlength : (('#' :: cs ++ tail).takeWhile (· ≠ '\n')).length = n := by
        have hread :
            piece? ('#' :: cs ++ tail) =
              some ((('#' :: cs ++ tail).takeWhile (· ≠ '\n')).length, none) := rfl
        rw [hread] at h
        simpa using h
      have hsame : (('#' :: cs).takeWhile (· ≠ '\n')).length = n := by
        rw [List.takeWhile_append] at hlength
        split at hlength
        · next hfull =>
          rw [List.length_append] at hlength
          omega
        · exact hlength
      rw [← hsame]
      rfl
  | some l =>
    have hspell := spelling_of_piece h
    have hlongest := longest_of_piece h
    rw [List.take_append_of_le_length hn] at hspell hlongest
    rw [List.drop_append_of_le_length hn] at hlongest
    have hcut : Longest (text.take n) (text.drop n) :=
      fun more hmore => hlongest more (hmore.trans (List.prefix_append _ _))
    have hpiece := hspell.piece hcut
    rwa [List.take_append_drop, List.length_take, Nat.min_eq_left hn] at hpiece

theorem Comes.suffix (h : Comes s t) : t.rest <:+ s.rest := by
  induction h with
  | refl s => exact List.suffix_refl _
  | blank _ _ _ ih =>
    rw [rest_skip] at ih
    exact ih.trans (List.drop_suffix _ _)
  | lexeme hr _ hl _ _ ih =>
    obtain ⟨n, l, -, rfl⟩ := (lexeme_eq_ok_iff hr).mp hl
    rw [rest_take] at ih
    exact ih.trans (List.drop_suffix _ _)

/-- A run goes the same way if the text is cut where it has come to. -/
theorem Comes.cut (h : Comes s u) (hf : Follows 0 [] u.rest r s) :
    ∃ v, Comes r v ∧ Follows 0 [] u.rest v u := by
  induction h generalizing r with
  | refl s => exact ⟨r, .refl r, hf⟩
  | @blank s u c cs hr hc hrest ih =>
    have hle := hrest.suffix.length_le
    cases hcut : r.rest with
    | nil =>
      rw [rest_skip, hr, List.drop_one, List.tail_cons] at hle
      have hall := hf.rest
      rw [hcut, hr] at hall
      rw [← List.nil_append u.rest, ← hall, List.length_cons] at hle
      omega
    | cons d ds =>
      have hall := hf.rest
      rw [hcut, hr] at hall
      obtain ⟨rfl, -⟩ := List.cons.inj hall
      obtain ⟨v, hv, hfv⟩ := ih (hf.skip (n := 1) (by simp [hcut]))
      exact ⟨v, .blank hcut hc hv, hfv⟩
  | @lexeme s s' u c cs hr hc hl _ hrest ih =>
    obtain ⟨n, l, hp, rfl⟩ := (lexeme_eq_ok_iff hr).mp hl
    obtain ⟨-, hle, -⟩ := piece?_spec hp
    have hn : n ≤ r.rest.length := by
      have hlater := hrest.suffix.length_le
      rw [rest_take, List.length_drop, hf.rest, List.length_append] at hlater
      rw [hf.rest, List.length_append] at hle
      omega
    rw [hf.rest] at hp
    obtain ⟨v, hv, hfv⟩ := ih (hf.take hn)
    exact ⟨v, (comes_of_piece (piece?_of_append hp hn)).trans hv, hfv⟩

/-- The text up to where a run has come has exactly the tokens read so far. -/
theorem tokensOf_of_comes_part {source : String} {before : List Char}
    (h : Comes (ofSource source) u) (hs : source.toList = before ++ u.rest) :
    u.place = Position.behind before ∧
      tokensOf (String.ofList before) = .ok (u.tokens.toList ++ [⟨.eof, .null, u.place⟩]) := by
  have hf : Follows 0 [] u.rest (ofSource (String.ofList before)) (ofSource source) :=
    ⟨by simp [ofSource, hs], rfl, rfl⟩
  obtain ⟨v, hv, hfv⟩ := h.cut hf
  have hend : v.rest = [] := by simpa using hfv.rest
  have hplace : u.place = v.place := hfv.place
  have htokens : u.tokens.toList = v.tokens.toList := by simpa using hfv.tokens
  rw [hplace, htokens]
  refine ⟨?_, tokensOf_eq_ok_iff.mpr ⟨v, hv, hend, rfl⟩⟩
  simpa using place_of_comes hv hend

end Cutting

section Quotes

/-- The number of backslashes at the end of a text. -/
def slashes (text : List Char) : Nat := (text.reverse.takeWhile (· = '\\')).length

theorem slashes_append (h : slashes inner % 2 = 1) (hx : slashes xs % 2 = 0) :
    slashes (xs ++ inner) % 2 = 1 := by
  unfold slashes at *
  rw [List.reverse_append, List.takeWhile_append]
  split
  · rw [List.length_append]
    omega
  · exact h

/-- In a string without an end, every quote of its own kind has an odd number of backslashes before
it: each backslash that is not escaped itself escapes what follows it. -/
theorem slashes_of_stringBody (hq : q ≠ '\\') (h : stringBody q cs = none)
    (hs : cs = inner ++ q :: rest) :
    slashes inner % 2 = 1 := by
  fun_induction stringBody q cs generalizing inner with
  | case1 => simp at hs
  | case2 cs he => exact absurd he hq
  | case3 =>
    cases inner with
    | nil => exact absurd (List.cons.inj hs).1.symm hq
    | cons x inner => simp at hs
  | case4 _ c cs ih =>
    have hbody : stringBody q cs = none := by simpa using h
    cases inner with
    | nil => exact absurd (List.cons.inj hs).1.symm hq
    | cons x inner =>
      obtain ⟨rfl, htail⟩ := List.cons.inj hs
      cases inner with
      | nil => rfl
      | cons y inner =>
        obtain ⟨rfl, hinner⟩ := List.cons.inj htail
        have hpair : slashes ['\\', c] % 2 = 0 := by by_cases hc : c = '\\' <;> simp [slashes, hc]
        exact slashes_append (ih hbody hinner) hpair
  | case5 => cases h
  | case6 c cs hc hne ih =>
    have hbody : stringBody q cs = none := by simpa using h
    cases inner with
    | nil => exact absurd (List.cons.inj hs).1 hne
    | cons x inner =>
      obtain ⟨rfl, hinner⟩ := List.cons.inj hs
      have hsingle : slashes [c] % 2 = 0 := by simp [slashes, show c ≠ '\\' from hc]
      exact slashes_append (ih hbody hinner) hsingle

end Quotes

section Flaws

theorem flaw?_openString (h : flaw? (c :: cs) = some (n, .openString)) :
    (c = '\x22' ∨ c = '\x27') ∧ stringBody c cs = none ∧ n = (c :: cs).length := by
  rw [flaw?] at h
  split at h
  · cases h
  split at h
  · next hquote =>
    split at h
    · next hbody =>
      cases h
      exact ⟨by simpa using hquote, by simpa using hbody, rfl⟩
    · cases h
  split at h
  · split at h <;> cases h
  split at h
  · cases h
  split at h <;> cases h

theorem flaw?_character (h : flaw? (c :: cs) = some (n, .character d)) : d = c ∧ n = 0 := by
  rw [flaw?] at h
  split at h
  · cases h
  split at h
  · split at h <;> cases h
  split at h
  · split at h <;> cases h
  split at h
  · cases h
  split at h
  · cases h
  · cases h
    exact ⟨rfl, rfl⟩

/-- Reading that fails comes to a flaw with the lexeme that begins there. -/
theorem flaw_of_tokenize (h : tokenize s = .error f t) :
    ∃ u n w c after, Comes s u ∧ u.rest = c :: after ∧
    lexeme c u = .error f t ∧ flaw? (c :: after) = some (n, w) ∧ t = u.skip n ∧
    f = w.fault t.place := by
  cases hl : lexemes s.rest.length s with
  | ok v t' =>
    rw [tokenize_of_ok hl] at h
    cases h
  | error e t' =>
    rw [tokenize_of_error hl] at h
    cases h
    obtain ⟨u, n, w, hcomes, hflaw, ht, hf⟩ := flaw_of_lexemes hl
    cases hr : u.rest with
    | nil =>
      rw [hr] at hflaw
      cases hflaw
    | cons c after =>
      have hlexeme :=
        (lexeme_eq_error_iff hr (not_gap_of_flaw (hr ▸ hflaw))).mpr ⟨n, w, hflaw, ht, hf⟩
      rw [hr] at hflaw
      exact ⟨u, n, w, c, after, hcomes, hr, hlexeme, hflaw, ht, hf⟩

/-- A text that cannot be read has a part before the lexeme at which reading stops. This part can be
read, and its tokens are those that are kept. An unexpected character is reported at its own place.
A string without an end is reported at the end of the text; it begins with a quote, and every such
quote after it is escaped. -/
theorem tokenize_keeps_tokens {source : String} (h : tokenize (ofSource source) = .error f t) :
    ∃ before c after u, source.toList = before ++ c :: after ∧
      Comes (ofSource source) u ∧ u.rest = c :: after ∧ lexeme c u = .error f t ∧
      tokensOf (String.ofList before) =
        .ok (t.tokens.toList ++ [⟨.eof, .null, Position.behind before⟩]) ∧
      ∀ place cause, f = .lexical place cause →
        cause = .unexpectedCharacter c ∧ place = Position.behind before ∨
        cause = .unterminatedString ∧ place = Position.behind source.toList ∧
        (c = '\x22' ∨ c = '\x27') ∧
          ∀ inner rest, after = inner ++ c :: rest → slashes inner % 2 = 1 := by
  obtain ⟨u, n, w, c, after, hcomes, hr, hlexeme, hflaw, rfl, rfl⟩ := flaw_of_tokenize h
  obtain ⟨before, hbefore⟩ := hcomes.suffix
  have hsource : source.toList = before ++ u.rest := hbefore.symm
  obtain ⟨hplace, htokens⟩ := tokensOf_of_comes_part hcomes hsource
  rw [hplace] at htokens
  refine ⟨before, c, after, u, by rw [hsource, hr], hcomes, hr, hlexeme, by rwa [tokens_skip], ?_⟩
  intro place cause hf
  cases w with
  | number => cases hf
  | character d =>
    obtain ⟨rfl, rfl⟩ := flaw?_character hflaw
    cases hf
    exact .inl ⟨rfl, hplace⟩
  | openString =>
    obtain ⟨hquote, hbody, rfl⟩ := flaw?_openString hflaw
    cases hf
    have hslash : c ≠ '\\' := by rcases hquote with rfl | rfl <;> decide
    refine .inr ⟨rfl, ?_, hquote, fun inner rest hs => slashes_of_stringBody hslash hbody hs⟩
    rw [place_skip, hr, List.take_length, hplace, ← Position.behind_append, hsource, hr]

theorem tokenize_keeps_tokens_escaped :
    ∃ t, tokenize (ofSource "x 'a\\'b") = .error (.lexical ⟨1, 8⟩ .unterminatedString) t ∧
      ∃ before c after, "x 'a\\'b".toList = before ++ c :: after ∧
        tokensOf (String.ofList before) =
          .ok (t.tokens.toList ++ [⟨.eof, .null, Position.behind before⟩]) ∧
        (c = '\x22' ∨ c = '\x27') ∧
          ∀ inner rest, after = inner ++ c :: rest → slashes inner % 2 = 1 := by
  have hread : tokenize (ofSource "x 'a\\'b") = .error (.lexical ⟨1, 8⟩ .unterminatedString)
      ⟨"x 'a\\'b".toList, [], 7, ⟨1, 8⟩, #[⟨.identifier, .text "x", ⟨1, 1⟩⟩]⟩ := rfl
  obtain ⟨before, c, after, -, hsource, -, -, -, htokens, hfault⟩ := tokenize_keeps_tokens hread
  obtain ⟨hcause, -⟩ | ⟨-, -, hquote, hescaped⟩ := hfault _ _ rfl
  · cases hcause
  · exact ⟨_, hread, before, c, after, hsource, htokens, hquote, hescaped⟩

end Flaws

end FloScript.Scanner
