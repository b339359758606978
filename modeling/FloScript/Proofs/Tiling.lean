import FloScript.Proofs.Spelling

/-! The tokens of a text tile it: they stand in it one after the other, each at its place and as
long as it can be, and nothing but blanks and comments stands between them. Such a tiling is unique,
and it exists exactly if the text can be read. -/
namespace FloScript

/-- The place behind the characters of a text: its line is one more than there are newlines, its
column one more than there are characters after the last of them. -/
def Position.behind (before : List Char) : Position :=
  ⟨before.count '\n' + 1, (before.reverse.takeWhile (· ≠ '\n')).length + 1⟩

example : Position.behind ['a', '\n', 'b', 'c'] = ⟨2, 3⟩ := by decide

theorem Position.behind_concat (before : List Char) (c : Char) :
    Position.behind (before ++ [c]) = (Position.behind before).after c := by
  by_cases hc : c = '\n'
  · subst hc
    simp [Position.behind, Position.after]
  · simp [Position.behind, Position.after, hc]

theorem Position.behind_append (before cs : List Char) :
    Position.behind (before ++ cs) = cs.foldl Position.after (Position.behind before) := by
  induction cs generalizing before with
  | nil => simp
  | cons c cs ih =>
    have hsplit : before ++ c :: cs = before ++ [c] ++ cs := by simp
    rw [hsplit, ih, Position.behind_concat, List.foldl_cons]

namespace Scanner

variable {s t : Scanner} {c : Char} {cs rest text : List Char} {n m k : Nat} {ts : List Token}

/-- What may stand between tokens, with what follows it: blanks, and after them a comment, which
ends only at a newline or at the end of the text. -/
def Gap (gap rest : List Char) : Prop :=
  ∃ blanks comment, gap = blanks ++ comment ∧ (∀ c ∈ blanks, isGap c = true) ∧
    (comment = [] ∨ comment.head? = some '#' ∧ '\n' ∉ comment ∧ Breaks rest)

/-- The token `t` stands in a text from the offset `start` up to `stop`. -/
structure Tile (text : List Char) (t : Token) (start stop : Nat) : Prop where
  start_lt : start < stop
  stop_le : stop ≤ text.length
  spelling : Spelling (text.extract start stop) t.kind (.ok t.value)
  longest : Longest (text.extract start stop) (text.drop stop)
  place : t.place = Position.behind (text.take start)

/-- From an offset on, a text consists of tokens with gaps before, between and after them; the last
token marks the end. -/
inductive Tiles (text : List Char) : Nat → List Token → Prop where
  | last {n : Nat} : n ≤ text.length → Gap (text.drop n) [] →
      Tiles text n [⟨.eof, .null, Position.behind text⟩]
  | next {n start stop : Nat} {t : Token} {ts : List Token} : n ≤ start →
      Gap (text.extract n start) (text.drop start) → Tile text t start stop → Tiles text stop ts →
      Tiles text n (t :: ts)

theorem Tiles.ends (h : Tiles text n ts) :
    ∃ us, ts = us ++ [⟨.eof, .null, Position.behind text⟩] ∧ ∀ u ∈ us, u.kind ≠ .eof := by
  induction h with
  | last => exact ⟨[], rfl, by simp⟩
  | next _ _ ht _ ih =>
    obtain ⟨us, rfl, hus⟩ := ih
    exact ⟨_ :: us, rfl, List.forall_mem_cons.mpr ⟨ht.spelling.ne_eof, hus⟩⟩

theorem extract_add (hn : n ≤ m) (text : List Char) (k : Nat) :
    text.extract n (m + k) = text.extract n m ++ (text.drop m).take k := by
  have hsub : m + k - n = m - n + k := by omega
  rw [List.extract, hsub, List.take_add, List.drop_drop, Nat.add_sub_cancel' hn]

theorem Gap.nil (rest : List Char) : Gap [] rest := ⟨[], [], rfl, by simp, .inl rfl⟩

/-- A gap is at its end where a newline comes next; before anything else it has no comment yet. -/
theorem Gap.blanks {gap : List Char} (h : Gap gap (c :: cs)) (hc : c ≠ '\n') :
    ∀ d ∈ gap, isGap d = true := by
  obtain ⟨blanks, comment, rfl, hblanks, rfl | ⟨-, -, hbreaks⟩⟩ := h
  · simpa using hblanks
  · exact absurd (hbreaks c rfl) hc

theorem Gap.comment {gap comment : List Char} (h : ∀ d ∈ gap, isGap d = true)
    (hhead : comment.head? = some '#') (hline : '\n' ∉ comment) (hbreaks : Breaks rest) :
    Gap (gap ++ comment) rest :=
  ⟨gap, comment, rfl, h, .inr ⟨hhead, hline, hbreaks⟩⟩

theorem comment_of_piece (h : piece? text = some (k, none)) :
    (∃ cs, text = '#' :: cs) ∧ text.take k = text.takeWhile (· ≠ '\n') ∧ Breaks (text.drop k) := by
  cases text with
  | nil => cases h
  | cons c cs =>
    rw [piece?] at h
    split at h
    · next hc =>
      subst hc
      cases h
      have htake :
          ('#' :: cs).take (('#' :: cs).takeWhile (· ≠ '\n')).length =
            ('#' :: cs).takeWhile (· ≠ '\n') :=
        (List.prefix_iff_eq_take.mp (List.takeWhile_prefix _)).symm
      refine ⟨⟨cs, rfl⟩, htake, ?_⟩
      have hdrop :
          ('#' :: cs).drop (('#' :: cs).takeWhile (· ≠ '\n')).length =
            ('#' :: cs).dropWhile (· ≠ '\n') := by
        have hsplit := List.take_append_drop (('#' :: cs).takeWhile (· ≠ '\n')).length ('#' :: cs)
        rw [htake] at hsplit
        exact List.append_cancel_left (hsplit.trans List.takeWhile_append_dropWhile.symm)
      rw [hdrop]
      intro d hd
      have hnot := List.head?_dropWhile_not (· ≠ '\n') ('#' :: cs)
      rw [Option.mem_def.mp hd] at hnot
      simpa using hnot
    split at h
    · cases h
    split at h
    · obtain ⟨r, -, hr⟩ := Option.map_eq_some_iff.mp h
      cases hr
    split at h
    · split at h <;> cases h
    split at h
    · cases h
    split at h
    · cases h
    · obtain ⟨r, -, hr⟩ := Option.map_eq_some_iff.mp h
      cases hr

/-- The scanner stands at an offset of a text. -/
structure Reached (text : List Char) (n : Nat) (s : Scanner) : Prop where
  le : n ≤ text.length
  rest : s.rest = text.drop n
  place : s.place = Position.behind (text.take n)

theorem Reached.skip (h : Reached text n s) (hk : k ≤ s.rest.length) :
    Reached text (n + k) (s.skip k) where
  le := by
    have hlen := congrArg List.length h.rest
    have hle := h.le
    rw [List.length_drop] at hlen
    omega
  rest := by rw [rest_skip, h.rest, List.drop_drop]
  place := by rw [place_skip, h.rest, h.place, ← Position.behind_append, ← List.take_add]

theorem Reached.take (h : Reached text n s) (hk : k ≤ s.rest.length) (l : Option Lexeme) :
    Reached text (n + k) (s.take k l) := by
  have hs := h.skip hk
  cases l with
  | none => exact hs
  | some l => exact ⟨hs.le, hs.rest, hs.place⟩

/-- What is read next at an offset is a tile. -/
theorem Reached.tile {l : Lexeme} (h : Reached text n s) (hp : piece? s.rest = some (k, some l)) :
    Tile text (l.token s.place) n (n + k) := by
  obtain ⟨hpos, hle, -⟩ := piece?_spec hp
  have hcut : text.extract n (n + k) = s.rest.take k := by simp [h.rest]
  have hdrop : text.drop (n + k) = s.rest.drop k := by rw [h.rest, List.drop_drop]
  refine ⟨by omega, (h.skip hle).le, ?_, ?_, h.place⟩
  · rw [hcut]
    exact spelling_of_piece hp
  · rw [hcut, hdrop]
    exact longest_of_piece hp

/-- A run to the end of a text tiles it; `n` is where the gap before the next token began. -/
theorem tiles_of_comes (h : Comes s t) (ht : t.rest = []) (hs : Reached text m s) (hn : n ≤ m)
    (hg : Gap (text.extract n m) (text.drop m)) :
    ∃ us, t.tokens.toList = s.tokens.toList ++ us ∧
      Tiles text n (us ++ [⟨.eof, .null, t.place⟩]) := by
  induction h generalizing m n with
  | refl s =>
    have hlen : text.length ≤ m := by
      rw [← List.drop_eq_nil_iff, ← hs.rest, ht]
    have htake : text.take m = text := List.take_of_length_le hlen
    refine ⟨[], by simp, ?_⟩
    rw [hs.place, htake]
    refine .last (by have := hs.le; omega) ?_
    have hcut : text.extract n m = text.drop n := List.take_of_length_le (by simp; omega)
    rw [hcut, ← hs.rest, ht] at hg
    exact hg
  | @blank s t c cs hr hc _ ih =>
    have hnext := hs.skip (k := 1) (by simp [hr])
    have hline : c ≠ '\n' := by
      rintro rfl
      revert hc
      decide
    have hgap : Gap (text.extract n (m + 1)) (text.drop (m + 1)) := by
      rw [← hs.rest, hr] at hg
      rw [extract_add hn, ← hs.rest, hr]
      exact ⟨_, [], (List.append_nil _).symm, by
        intro d hd
        rcases List.mem_append.mp hd with hd | hd
        · exact hg.blanks hline d hd
        · obtain rfl : d = c := by simpa using hd
          exact hc, .inl rfl⟩
    obtain ⟨us, hus, htiles⟩ := ih ht hnext (by omega) hgap
    exact ⟨us, by rw [hus, tokens_skip], htiles⟩
  | @lexeme s u t c cs hr hc hl _ _ ih =>
    obtain ⟨k, l, hp, rfl⟩ := (lexeme_eq_ok_iff hr).mp hl
    obtain ⟨hpos, hle, -⟩ := piece?_spec hp
    have hnext := hs.take hle l
    cases l with
    | none =>
      obtain ⟨⟨ds, hhash⟩, htake, hbreaks⟩ := comment_of_piece hp
      have hgap : Gap (text.extract n (m + k)) (text.drop (m + k)) := by
        rw [← hs.rest, hhash] at hg
        rw [extract_add hn, ← List.drop_drop, ← hs.rest, htake]
        exact .comment (hg.blanks (by decide)) (by rw [hhash]; rfl)
          (fun h => absurd (List.mem_takeWhile_imp h) (by decide)) hbreaks
      obtain ⟨us, hus, htiles⟩ := ih ht hnext (by omega) hgap
      exact ⟨us, by rw [hus]; simp [Scanner.take], htiles⟩
    | some l =>
      have hgap : Gap (text.extract (m + k) (m + k)) (text.drop (m + k)) := by simpa using Gap.nil _
      obtain ⟨us, hus, htiles⟩ := ih ht hnext (Nat.le_refl _) hgap
      refine ⟨l.token s.place :: us, by rw [hus]; simp [Scanner.take], ?_⟩
      exact .next hn hg (hs.tile hp) htiles

theorem skip_skip (a b : Nat) (s : Scanner) : (s.skip a).skip b = s.skip (a + b) := by
  induction a generalizing s with
  | zero => rw [Nat.zero_add, skip]
  | succ a ih => rw [skip_succ, ih, Nat.add_right_comm, ← skip_succ]

theorem comes_blanks {blanks : List Char} (hb : ∀ d ∈ blanks, isGap d = true)
    (hr : s.rest = blanks ++ rest) :
    Comes s (s.skip blanks.length) := by
  induction blanks generalizing s with
  | nil => exact .refl s
  | cons c blanks ih =>
    rw [List.length_cons, skip_succ]
    refine .blank hr (hb c (by simp)) (ih (fun d hd => hb d (by simp [hd])) ?_)
    simp [hr]

theorem comes_comment {comment : List Char} (hhead : comment.head? = some '#')
    (hline : '\n' ∉ comment) (hbreaks : Breaks rest) (hr : s.rest = comment ++ rest) :
    Comes s (s.skip comment.length) := by
  cases comment with
  | nil => cases hhead
  | cons c cs =>
    obtain rfl : c = '#' := by simpa using hhead
    have hrun : s.rest.takeWhile (· ≠ '\n') = '#' :: cs := by
      rw [hr, takeWhile_breaks (by decide) hbreaks, List.takeWhile_eq_self_iff]
      intro d hd
      simp only [decide_eq_true_eq]
      rintro rfl
      exact hline hd
    have hlex : lexeme '#' s = .ok () (s.skip ('#' :: cs).length) := by
      refine (lexeme_eq_ok_iff hr).mpr ⟨('#' :: cs).length, none, ?_, rfl⟩
      rw [← hrun, hr]
      rfl
    refine .lexeme hr (by decide) hlex ?_ (.refl _)
    rw [rest_skip, List.length_drop, hr]
    simp only [List.length_append, List.length_cons]
    omega

/-- A gap is passed over. -/
theorem Gap.comes {gap : List Char} (h : Gap gap rest) (hr : s.rest = gap ++ rest) :
    Comes s (s.skip gap.length) := by
  obtain ⟨blanks, comment, rfl, hblanks, hcomment⟩ := h
  rw [List.append_assoc] at hr
  have hfirst := comes_blanks hblanks hr
  rcases hcomment with rfl | ⟨hhead, hline, hbreaks⟩
  · simpa using hfirst
  · have hlater := comes_comment (s := s.skip blanks.length) hhead hline hbreaks (by simp [hr])
    rw [skip_skip, ← List.length_append] at hlater
    exact hfirst.trans hlater

/-- A tiling is read token by token. -/
theorem comes_of_tiles (h : Tiles text n ts) (hs : Reached text n s) :
    ∃ t us, Comes s t ∧ t.rest = [] ∧ t.tokens.toList = s.tokens.toList ++ us ∧
      ts = us ++ [⟨.eof, .null, t.place⟩] := by
  induction h generalizing s with
  | @last n hn hg =>
    have hr : s.rest = text.drop n ++ [] := by rw [hs.rest, List.append_nil]
    have hend := hs.skip (k := (text.drop n).length) (by rw [hs.rest])
    have hlen : n + (text.drop n).length = text.length := by simp; omega
    rw [hlen] at hend
    refine ⟨_, [], hg.comes hr, ?_, by simp, ?_⟩
    · rw [hend.rest, List.drop_length]
    · rw [hend.place, List.take_length, List.nil_append]
  | @next n start stop t ts hn hg ht _ ih =>
    have hlt := ht.start_lt
    have hle := ht.stop_le
    -- over the gap
    have hgap : (text.extract n start).length = start - n := by simp; omega
    have hr : s.rest = text.extract n start ++ text.drop start := by
      rw [hs.rest, List.extract, ← Nat.add_sub_cancel' hn, ← List.drop_drop,
        Nat.add_sub_cancel_left, List.take_append_drop]
    have hcomes := hg.comes hr
    rw [hgap] at hcomes
    have hu := hs.skip (k := start - n) (by rw [hs.rest, List.length_drop]; omega)
    rw [Nat.add_sub_cancel' hn] at hu
    -- over the token
    have hlex : (text.extract start stop).length = stop - start := by simp; omega
    have hu' : (s.skip (start - n)).rest = text.extract start stop ++ text.drop stop := by
      rw [hu.rest, List.extract, ← Nat.add_sub_cancel' hlt.le, ← List.drop_drop,
        Nat.add_sub_cancel_left, List.take_append_drop]
    have hp := ht.spelling.piece ht.longest
    rw [← hu', hlex] at hp
    have hnext := hu.take (piece?_spec hp).2.1 (some (t.kind, t.value))
    rw [Nat.add_sub_cancel' hlt.le] at hnext
    obtain ⟨t', us, hrest, hend, htokens, rfl⟩ := ih hnext
    have htoken : Lexeme.token (s.skip (start - n)).place (t.kind, t.value) = t := by
      rw [hu.place, ← ht.place]
      rfl
    refine ⟨t', t :: us, hcomes.trans ((comes_of_piece hp).trans hrest), hend, ?_, rfl⟩
    rw [htokens]
    simp [Scanner.take, htoken]

theorem reached_start (source : String) : Reached source.toList 0 (ofSource source) :=
  ⟨Nat.zero_le _, rfl, rfl⟩

theorem place_of_comes {source : String} (h : Comes (ofSource source) t) (ht : t.rest = []) :
    t.place = Position.behind source.toList := by
  obtain ⟨us, -, htiles⟩ := tiles_of_comes h ht (reached_start source) (Nat.le_refl 0) (Gap.nil _)
  obtain ⟨vs, hvs, -⟩ := htiles.ends
  simpa using (List.append_inj' hvs rfl).2

/-- The tokens of a text are those that tile it. The last one stands where the text ends, and only
this one marks an end. -/
theorem tokensOf_eq_ok_iff_tiles (source : String) (tokens : List Token) :
    tokensOf source = .ok tokens ↔
      Tiles source.toList 0 tokens ∧
        ∃ us, tokens = us ++ [⟨.eof, .null, Position.behind source.toList⟩] ∧
        ∀ u ∈ us, u.kind ≠ .eof := by
  constructor
  · intro h
    obtain ⟨t, hcomes, hend, rfl⟩ := tokensOf_eq_ok_iff.mp h
    have hgap : Gap (source.toList.extract 0 0) (source.toList.drop 0) := Gap.nil _
    obtain ⟨us, hus, htiles⟩ :=
      tiles_of_comes hcomes hend (reached_start source) (Nat.le_refl 0) hgap
    have htokens : t.tokens.toList = us := by simpa [ofSource] using hus
    rw [htokens]
    exact ⟨htiles, htiles.ends⟩
  · rintro ⟨htiles, -⟩
    obtain ⟨t, us, hcomes, hend, hus, rfl⟩ := comes_of_tiles htiles (reached_start source)
    have htokens : t.tokens.toList = us := by simpa [ofSource] using hus
    exact tokensOf_eq_ok_iff.mpr ⟨t, hcomes, hend, by rw [htokens]⟩

end Scanner
end FloScript
