import FloScript.Proofs.Scanning

/-! Texts joined by a newline. What is read next depends on the text alone and ends at a newline at
the latest, so the tokens of a text stay what they are if a newline and another text follow; those
of the second text are found further down. -/
namespace FloScript

/-- The place `k` lines further down. -/
def Position.down (k : Nat) (p : Position) : Position := ⟨p.line + k, p.column⟩

def Token.down (k : Nat) (t : Token) : Token := { t with place := t.place.down k }

@[simp] theorem Position.down_zero (p : Position) : p.down 0 = p := rfl

@[simp] theorem Token.down_zero : Token.down 0 = id := rfl

theorem Position.after_down (k : Nat) (p : Position) (c : Char) :
    (p.down k).after c = (p.after c).down k := by
  unfold Position.after
  split
  · simp [Position.down, Nat.add_right_comm]
  · rfl

theorem Position.foldl_after_down (k : Nat) (p : Position) (cs : List Char) :
    cs.foldl Position.after (p.down k) = (cs.foldl Position.after p).down k := by
  induction cs generalizing p with
  | nil => rfl
  | cons c cs ih => rw [List.foldl_cons, List.foldl_cons, Position.after_down, ih]

namespace Scanner

variable {s s' t : Scanner} {c : Char} {cs tail text : List Char} {n k : Nat} {l : Option Lexeme}
  {pre us vs : List Token}

section Pieces

/-- What is read next in a text: how many characters, and the lexeme they are unless they are a
comment. -/
def piece? : List Char → Option (Nat × Option Lexeme)
  | [] => none
  | c :: cs =>
    if c = '#' then some (((c :: cs).takeWhile (· ≠ '\n')).length, none)
    else if c = '\n' then some (1, some (.plain .newline "\n"))
    else if c = '\x22' || c = '\x27' then
      (stringBody c cs).map fun (v, n) => (n + 1, some (.plain .string (String.ofList v)))
    else if Text.isDigit c then
      match numberValue (numberRun false (c :: cs)) with
      | .ok v => some ((numberRun false (c :: cs)).length, some (.number, v))
      | .error _ => none
    else if Text.isLetter c || c = '_' then
      let run := (c :: cs).takeWhile Text.isWordChar
      some (run.length, some (.plain (.ofWordText (String.ofList run)) (String.ofList run)))
    else
      match (cs[0]?).bind (Kind.pairOperator? c) with
      | some kind => some (2, some (.plain kind (String.ofList ((c :: cs).take 2))))
      | none => (Kind.operator? c).map fun kind => (1, some (.plain kind (String.ofList [c])))

/-- Passes over `n` characters and adds the lexeme they are, if any. -/
def take (n : Nat) (l : Option Lexeme) (s : Scanner) : Scanner :=
  match l with
  | none => s.skip n
  | some l => { s.skip n with tokens := s.tokens.push (l.token s.place) }

@[simp] theorem rest_take : (s.take n l).rest = s.rest.drop n := by
  cases l <;> simp [take]

theorem skip_with_tokens (n : Nat) (s : Scanner) (ts : Array Token) :
    ({ s with tokens := ts } : Scanner).skip n = { s.skip n with tokens := ts } := by
  induction n generalizing s with
  | zero => rfl
  | succ n ih =>
    obtain ⟨source, rest, pos, place, tokens⟩ := s
    cases rest with
    | nil => rfl
    | cons c cs => exact ih ⟨source, cs, pos + 1, place.after c, tokens⟩

theorem push_skip (kind : Kind) (v : Literal) (n : Nat) (s : Scanner) :
    push kind v s.place (s.skip n) = .ok () (s.take n (some (kind, v))) := by
  change EStateM.Result.ok () ({ s.skip n with tokens := (s.skip n).tokens.push _ } : Scanner) = _
  rw [tokens_skip]
  rfl

theorem pushOperator_eq (kind : Kind) (n : Nat) (s : Scanner) :
    pushOperator kind n s =
      .ok () (s.take n (some (.plain kind (String.ofList (s.rest.take n))))) := by
  change EStateM.Result.ok () (({ s with tokens := _ } : Scanner).skip n) = _
  rw [skip_with_tokens]
  rfl

theorem skipComment_eq (hr : s.rest = '#' :: cs) :
    skipComment s = .ok () (s.take (s.rest.takeWhile (· ≠ '\n')).length none) := by
  change
    (if s.rest.head? = some '#' then discard (takeRun (· ≠ '\n')) else pure () : Scan Unit) s = _
  rw [if_pos (by simp [hr])]
  rfl

theorem readString_eq (hr : s.rest = c :: cs) : readString c s =
    match stringBody c cs with
    | some (v, n) => .ok (String.ofList v) (s.skip (n + 1))
    | none =>
      .error (.lexical (s.skip s.rest.length).place .unterminatedString)
        (s.skip s.rest.length) := by
  change (match stringBody c (s.rest.drop 1) with
    | some (v, n) => (do set (s.skip (n + 1)); return String.ofList v : Scan String)
    | none => (do set (s.skip s.rest.length); reject .unterminatedString : Scan String)) s = _
  rw [hr, List.drop_one, List.tail_cons]
  cases stringBody c cs <;> rfl

theorem ok_take_iff :
    (EStateM.Result.ok () (s.take n l) : EStateM.Result Fault Scanner Unit) = .ok () t ↔
    ∃ m j, some (n, l) = some (m, j) ∧ t = s.take m j := by
  constructor
  · rintro ⟨⟩
    exact ⟨n, l, rfl, rfl⟩
  · rintro ⟨m, j, ⟨⟩, rfl⟩
    rfl

/-- A lexeme is read exactly as the text says. -/
theorem lexeme_eq_ok_iff (hr : s.rest = c :: cs) :
    lexeme c s = .ok () t ↔ ∃ n l, piece? s.rest = some (n, l) ∧ t = s.take n l := by
  unfold lexeme
  change (if c = '#' then skipComment else _ : Scan Unit) s = _ ↔ _
  rw [hr, piece?]
  split
  · next h =>
    subst h
    rw [skipComment_eq hr, hr]
    exact ok_take_iff
  split
  · next h =>
    subst h
    rw [pushOperator_eq, hr]
    exact ok_take_iff
  split
  · change EStateM.bind (readString c) _ s = _ ↔ _
    simp only [EStateM.bind, readString_eq hr]
    cases stringBody c cs with
    | none => simp
    | some r =>
      simp only [push_skip]
      exact ok_take_iff
  split
  · change EStateM.bind readNumber _ s = _ ↔ _
    simp only [EStateM.bind, readNumber_eq, hr]
    cases numberValue (numberRun false (c :: cs)) with
    | error e => simp
    | ok v =>
      simp only [push_skip]
      exact ok_take_iff
  split
  · change push _ _ s.place (s.skip (s.rest.takeWhile Text.isWordChar).length) = _ ↔ _
    rw [push_skip, hr]
    exact ok_take_iff
  change (match (cs[0]?).bind (Kind.pairOperator? c) with
    | some kind => pushOperator kind 2
    | none => match Kind.operator? c with
      | some kind => pushOperator kind 1
      | none => reject (.unexpectedCharacter c) : Scan Unit) s = _ ↔ _
  cases (cs[0]?).bind (Kind.pairOperator? c) with
  | some kind =>
    simp only [pushOperator_eq, hr]
    exact ok_take_iff
  | none =>
    cases Kind.operator? c with
    | some kind =>
      simp only [pushOperator_eq, hr]
      exact ok_take_iff
    | none =>
      constructor
      · rintro ⟨⟩
      · rintro ⟨n, l, ⟨⟩, -⟩

theorem isWordChar_of_opens (h : (Text.isLetter c || c = '_') = true) :
    Text.isWordChar c = true := by
  simp only [Text.isWordChar, Text.isAlphanumeric, Bool.or_eq_true, decide_eq_true_eq] at h ⊢
  rcases h with h | h
  · exact .inl (.inl h)
  · exact .inr h

theorem ofWordText_ne_eof (w : String) : Kind.ofWordText w ≠ .eof := by
  unfold Kind.ofWordText
  cases h : Kind.keywords.lookup w with
  | none => simp
  | some k =>
    obtain ⟨ps, qs, hs, -⟩ := List.lookup_eq_some_iff.mp h
    have hall : ∀ p ∈ Kind.keywords, p.2 ≠ Kind.eof := by decide
    exact hall (w, k) (by simp [hs])

theorem pairOperator?_ne_eof {d : Char} {j : Kind} (h : Kind.pairOperator? c d = some j) :
    j ≠ .eof := by
  unfold Kind.pairOperator? at h
  split at h <;> cases h <;> decide

theorem operator?_ne_eof {j : Kind} (h : Kind.operator? c = some j) : j ≠ .eof := by
  unfold Kind.operator? at h
  split at h <;> cases h <;> decide

theorem pairOperator?_newline (c : Char) : Kind.pairOperator? c '\n' = none := by
  unfold Kind.pairOperator?
  split <;> simp_all

theorem stringBody_length {q : Char} {v : List Char} (h : stringBody q cs = some (v, n)) :
    n ≤ cs.length := by
  fun_induction stringBody q cs generalizing v n with
  | case1 | case3 => cases h
  | case2 | case5 =>
    cases h
    simp
  | case4 hq c cs ih | case6 c cs hc hq ih =>
    obtain ⟨⟨v, m⟩, hv, he⟩ := Option.map_eq_some_iff.mp h
    cases he
    simpa using ih hv

theorem length_numberRun_le (b : Bool) (cs : List Char) : (numberRun b cs).length ≤ cs.length := by
  fun_induction numberRun b cs <;> simp_all

theorem numberRun_ne_nil (h : Text.isDigit c = true) (b : Bool) : numberRun b (c :: cs) ≠ [] := by
  have hp : c ≠ '.' := by
    rintro rfl
    revert h
    decide
  rw [numberRun, if_neg hp, if_pos h]
  simp

/-- At least one character is read, and no end mark. -/
theorem piece?_spec (h : piece? text = some (n, l)) :
    0 < n ∧ n ≤ text.length ∧ ∀ x ∈ l, x.1 ≠ Kind.eof := by
  cases text with
  | nil => cases h
  | cons c cs =>
    rw [piece?] at h
    split at h
    · next hc =>
      subst hc
      cases h
      refine ⟨by simp, (List.takeWhile_sublist _).length_le, by simp⟩
    split at h
    · cases h
      simp [Lexeme.plain]
    split at h
    · obtain ⟨⟨v, m⟩, hm, hv⟩ := Option.map_eq_some_iff.mp h
      cases hv
      have hlen := stringBody_length hm
      refine ⟨by simp, by simpa using hlen, by simp [Lexeme.plain]⟩
    split at h
    · next hd =>
      split at h
      · cases h
        refine ⟨?_, length_numberRun_le _ _, by simp⟩
        exact List.length_pos_iff.mpr (numberRun_ne_nil hd false)
      · cases h
    split at h
    · next hw =>
      cases h
      refine ⟨?_, (List.takeWhile_sublist _).length_le, ?_⟩
      · simp [isWordChar_of_opens hw]
      · simpa [Lexeme.plain] using ofWordText_ne_eof _
    split at h
    · next kind hk =>
      cases h
      obtain ⟨d, hd, hk⟩ := Option.bind_eq_some_iff.mp hk
      cases cs with
      | nil => cases hd
      | cons e cs => simpa [Lexeme.plain] using pairOperator?_ne_eof hk
    · obtain ⟨kind, hk, hv⟩ := Option.map_eq_some_iff.mp h
      cases hv
      simpa [Lexeme.plain] using operator?_ne_eof hk

/-- Nothing, or a text that begins with a newline. -/
def Breaks (tail : List Char) : Prop := ∀ c ∈ tail.head?, c = '\n'

theorem takeWhile_breaks {p : Char → Bool} (hp : p '\n' = false)
    (hb : Breaks tail) (cs : List Char) :
    (cs ++ tail).takeWhile p = cs.takeWhile p := by
  induction cs with
  | nil =>
    cases tail with
    | nil => rfl
    | cons c tail =>
      obtain rfl := hb c rfl
      simp [hp]
  | cons c cs ih => rw [List.cons_append, List.takeWhile_cons, List.takeWhile_cons, ih]

theorem numberRun_breaks (hb : Breaks tail) (b : Bool) (cs : List Char) :
    numberRun b (cs ++ tail) = numberRun b cs := by
  induction cs generalizing b with
  | nil =>
    cases tail with
    | nil => rfl
    | cons c tail =>
      obtain rfl := hb c rfl
      simp only [List.nil_append, numberRun]
      rw [if_neg (by decide), if_neg (by decide)]
  | cons c cs ih => simp only [List.cons_append, numberRun, ih]

theorem stringBody_append {q : Char} {r : List Char × Nat}
    (h : stringBody q cs = some r) (tail : List Char) :
    stringBody q (cs ++ tail) = some r := by
  fun_induction stringBody q cs generalizing r with
  | case1 => cases h
  | case2 cs hq =>
    rw [List.cons_append, stringBody.eq_def]
    simpa [hq] using h
  | case3 => cases h
  | case4 hq c cs ih =>
    obtain ⟨v, hv, rfl⟩ := Option.map_eq_some_iff.mp h
    simp [stringBody, hq, ih hv]
  | case5 cs hq => simpa [stringBody, hq] using h
  | case6 c cs hc hq ih =>
    obtain ⟨v, hv, rfl⟩ := Option.map_eq_some_iff.mp h
    simp [stringBody, hq, ih hv]

/-- Between two texts stands a newline, on either side, or one of them is empty. -/
def Cut (text tail : List Char) : Prop := Breaks tail ∨ ∀ c ∈ text.getLast?, c = '\n'

theorem cut_of_breaks (hb : Breaks tail) (text : List Char) : Cut text tail := .inl hb

theorem Cut.drop (h : Cut text tail) (n : Nat) : Cut (text.drop n) tail := by
  rcases h with hb | hl
  · exact .inl hb
  · refine .inr fun c hc => hl c ?_
    rw [List.getLast?_drop] at hc
    split at hc
    · cases hc
    · exact hc

theorem Cut.exists_line (h : Cut text tail) (hne : text ≠ []) :
    Breaks tail ∨ ∃ cs, text = cs ++ ['\n'] := by
  refine h.imp_right fun hl => ⟨text.dropLast, ?_⟩
  rw [← hl _ (List.getLast?_eq_some_getLast hne), List.dropLast_concat_getLast]

theorem Cut.takeWhile {p : Char → Bool} (h : Cut text tail)
    (hne : text ≠ []) (hp : p '\n' = false) :
    (text ++ tail).takeWhile p = text.takeWhile p := by
  rcases h.exists_line hne with hb | ⟨cs, rfl⟩
  · exact takeWhile_breaks hp hb text
  · rw [List.append_assoc, takeWhile_breaks hp (by simp [Breaks]),
      takeWhile_breaks hp (by simp [Breaks])]

theorem Cut.numberRun (h : Cut text tail) (hne : text ≠ []) (b : Bool) :
    numberRun b (text ++ tail) = numberRun b text := by
  rcases h.exists_line hne with hb | ⟨cs, rfl⟩
  · exact numberRun_breaks hb b text
  · rw [List.append_assoc, numberRun_breaks (by simp [Breaks]), numberRun_breaks (by simp [Breaks])]

/-- What is read in a text does not go on behind a cut. -/
theorem piece?_append (h : piece? text = some (n, l)) (hcut : Cut text tail) :
    piece? (text ++ tail) = some (n, l) := by
  cases text with
  | nil => cases h
  | cons c cs =>
    rw [List.cons_append, piece?]
    rw [piece?] at h
    split at h
    · next hc => rw [if_pos hc, ← List.cons_append, hcut.takeWhile (by simp) (by decide), h]
    rw [if_neg (by assumption)]
    split at h
    · next hc => rw [if_pos hc, h]
    rw [if_neg (by assumption)]
    split at h
    · next hc =>
      obtain ⟨r, hm, hv⟩ := Option.map_eq_some_iff.mp h
      rw [if_pos hc, stringBody_append hm, Option.map_some, hv]
    rw [if_neg (by assumption)]
    split at h
    · next hc => rw [if_pos hc, ← List.cons_append, hcut.numberRun (by simp), h]
    rw [if_neg (by assumption)]
    split at h
    · next hc => rw [if_pos hc, ← List.cons_append, hcut.takeWhile (by simp) (by decide), h]
    rw [if_neg (by assumption)]
    cases cs with
    | nil =>
      have hpair : (([] ++ tail)[0]?).bind (Kind.pairOperator? c) = none := by
        rcases hcut with hb | hl
        · cases tail with
          | nil => rfl
          | cons d tail =>
            obtain rfl := hb d rfl
            exact pairOperator?_newline c
        · exact absurd (hl c rfl) (by assumption)
      rw [hpair]
      exact h
    | cons d cs => exact h

end Pieces

section Runs

/-- After the blanks, no blank comes next. -/
theorem comes_unblanked (s : Scanner) :
    Comes s s.unblanked ∧ ∀ c ∈ s.unblanked.rest.head?, isGap c = false := by
  generalize hr : s.rest = text
  induction text generalizing s with
  | nil =>
    have hu : s.unblanked = s := by simp [unblanked, hr, skip]
    rw [hu]
    exact ⟨.refl s, by simp [hr]⟩
  | cons c cs ih =>
    cases hc : isGap c with
    | true =>
      obtain ⟨hcomes, hno⟩ := ih (s.skip 1) (by simp [hr])
      rw [unblanked_blank hr hc]
      exact ⟨.blank hr hc hcomes, hno⟩
    | false =>
      rw [unblanked_of_not_gap hr hc]
      exact ⟨.refl s, by simp [hr, hc]⟩

theorem comes_of_lexeme (hr : s.rest = c :: cs) (hc : isGap c = false)
    (hl : lexeme c s = .ok () t) : Comes s t := by
  obtain ⟨n, l, hp, rfl⟩ := (lexeme_eq_ok_iff hr).mp hl
  obtain ⟨hpos, -, -⟩ := piece?_spec hp
  refine .lexeme hr hc hl ?_ (.refl _)
  rw [rest_take, List.length_drop, hr, List.length_cons]
  omega

/-- A run that ends without a fault has come to the end of the text. -/
theorem comes_of_lexemes (h : lexemes n s = .ok () t) (hn : s.rest.length ≤ n) :
    Comes s t ∧ t.rest = [] := by
  induction n generalizing s with
  | zero =>
    cases h
    exact ⟨.refl t, List.length_eq_zero_iff.mp (Nat.le_zero.mp hn)⟩
  | succ n ih =>
    obtain ⟨hu, hno⟩ := comes_unblanked s
    rw [lexemes_succ] at h
    cases hr : s.unblanked.rest with
    | nil =>
      rw [hr] at h
      cases h
      exact ⟨hu, hr⟩
    | cons c cs =>
      rw [hr] at h
      change EStateM.bind (lexeme c) (fun _ => lexemes n) s.unblanked = _ at h
      rw [EStateM.bind] at h
      cases hl : lexeme c s.unblanked with
      | error e u =>
        rw [hl] at h
        cases h
      | ok v u =>
        rw [hl] at h
        obtain ⟨m, l, hp, rfl⟩ := (lexeme_eq_ok_iff hr).mp hl
        obtain ⟨hpos, -, -⟩ := piece?_spec hp
        have hshort : s.unblanked.rest.length ≤ s.rest.length := by simp [unblanked]
        have hless : (s.unblanked.take m l).rest.length < s.unblanked.rest.length := by
          rw [rest_take, List.length_drop, hr, List.length_cons]
          omega
        obtain ⟨hcomes, hend⟩ := ih h (by omega)
        exact ⟨hu.trans (.lexeme hr (hno c (by simp [hr])) hl hless hcomes), hend⟩

/-- Only tokens other than the end mark are added. -/
theorem Comes.tokens (h : Comes s t) :
    ∃ us, t.tokens.toList = s.tokens.toList ++ us ∧ ∀ u ∈ us, u.kind ≠ .eof := by
  induction h with
  | refl s => exact ⟨[], by simp⟩
  | blank _ _ _ ih => simpa using ih
  | @lexeme s u t c cs hr _ hl _ _ ih =>
    obtain ⟨n, l, hp, rfl⟩ := (lexeme_eq_ok_iff hr).mp hl
    obtain ⟨-, -, hk⟩ := piece?_spec hp
    obtain ⟨us, hus, hne⟩ := ih
    cases l with
    | none => exact ⟨us, by simpa [take] using hus, hne⟩
    | some l =>
      refine ⟨l.token s.place :: us, by simpa [take] using hus, ?_⟩
      rintro u (_ | ⟨_, hu⟩)
      · exact hk l rfl
      · exact hne u hu

/-- The state `s'` has read `pre` and then what `s` has read, `k` lines further down, and `tail` is
still to read after the rest of `s`. -/
structure Follows (k : Nat) (pre : List Token) (tail : List Char) (s s' : Scanner) : Prop where
  rest : s'.rest = s.rest ++ tail
  place : s'.place = s.place.down k
  tokens : s'.tokens.toList = pre ++ s.tokens.toList.map (Token.down k)

theorem place_skip (n : Nat) (s : Scanner) :
    (s.skip n).place = (s.rest.take n).foldl Position.after s.place := by
  induction n generalizing s with
  | zero => rfl
  | succ n ih =>
    rw [skip]
    cases h : s.rest with
    | nil => simp
    | cons c cs => simp [ih]

theorem Follows.skip (h : Follows k pre tail s s') (hn : n ≤ s.rest.length) :
    Follows k pre tail (s.skip n) (s'.skip n) where
  rest := by rw [rest_skip, rest_skip, h.rest, List.drop_append_of_le_length hn]
  place := by
    rw [place_skip, place_skip, h.rest, List.take_append_of_le_length hn, h.place,
      Position.foldl_after_down]
  tokens := by rw [tokens_skip, tokens_skip, h.tokens]

theorem Follows.take (h : Follows k pre tail s s') (hn : n ≤ s.rest.length) :
    Follows k pre tail (s.take n l) (s'.take n l) := by
  have hs := h.skip hn
  cases l with
  | none => exact hs
  | some l =>
    refine ⟨hs.rest, hs.place, ?_⟩
    simp [Scanner.take, h.tokens, h.place, Lexeme.token, Token.down]

theorem Follows.comes (hc : Comes s t) (h : Follows k pre tail s s') (hcut : Cut s.rest tail) :
    ∃ t', Comes s' t' ∧ Follows k pre tail t t' := by
  induction hc generalizing s' with
  | refl s => exact ⟨s', .refl s', h⟩
  | @blank s t c cs hr hc _ ih =>
    obtain ⟨t', hcomes, ht⟩ := ih (h.skip (by simp [hr])) (by simpa using hcut.drop 1)
    exact ⟨t', .blank (by rw [h.rest, hr, List.cons_append]) hc hcomes, ht⟩
  | @lexeme s u t c cs hr hc hl _ _ ih =>
    obtain ⟨n, l, hpiece, rfl⟩ := (lexeme_eq_ok_iff hr).mp hl
    obtain ⟨hpos, hle, -⟩ := piece?_spec hpiece
    have hr' : s'.rest = c :: (cs ++ tail) := by rw [h.rest, hr, List.cons_append]
    have hpiece' : piece? s'.rest = some (n, l) := by rw [h.rest, piece?_append hpiece hcut]
    obtain ⟨t', hcomes, ht⟩ := ih (h.take hle) (by simpa using hcut.drop n)
    exact ⟨t',
      (comes_of_lexeme hr' hc ((lexeme_eq_ok_iff hr').mpr ⟨n, l, hpiece', rfl⟩)).trans hcomes, ht⟩

/-- A text has the tokens read on the way to its end, and the end mark. -/
theorem tokensOf_eq_ok_iff {source : String} {ts : List Token} : tokensOf source = .ok ts ↔
    ∃ t, Comes (ofSource source) t ∧ t.rest = [] ∧
    ts = t.tokens.toList ++ [⟨.eof, .null, t.place⟩] := by
  constructor
  · intro h
    rw [tokensOf_eq] at h
    cases hl : lexemes (ofSource source).rest.length (ofSource source) with
    | error e u =>
      rw [hl] at h
      cases h
    | ok v t =>
      rw [hl] at h
      cases h
      obtain ⟨hcomes, hend⟩ := comes_of_lexemes hl (Nat.le_refl _)
      exact ⟨t, hcomes, hend, rfl⟩
  · rintro ⟨t, hcomes, hend, rfl⟩
    exact tokensOf_of_comes hcomes hend

/-- Behind the newline after a text that was read to its end, a second text is read as it is on its
own, further down. -/
theorem comes_second {a : String} (hs : Comes (ofSource a) s) (hend : s.rest = []) (b : String) :
    ∃ u, Comes (ofSource (a ++ "\n" ++ b)) u ∧
      Follows s.place.line (s.tokens.toList ++ [⟨.newline, .text "\n", s.place⟩]) []
      (ofSource b) u := by
  have hfirst : Follows 0 [] ('\n' :: b.toList) (ofSource a) (ofSource (a ++ "\n" ++ b)) :=
    ⟨by simp [ofSource], rfl, rfl⟩
  obtain ⟨s', hs', hfs⟩ := hfirst.comes hs (cut_of_breaks (by simp [Breaks]) _)
  have hr : s'.rest = '\n' :: b.toList := by rw [hfs.rest, hend, List.nil_append]
  have hnewline : lexeme '\n' s' = .ok () (s'.take 1 (some (.plain .newline "\n"))) :=
    (lexeme_eq_ok_iff hr).mpr ⟨1, some (.plain .newline "\n"), by rw [hr]; rfl, rfl⟩
  refine ⟨_, hs'.trans (comes_of_lexeme hr (by decide) hnewline), ?_, ?_, ?_⟩
  · simp [hr, ofSource]
  · simp [Scanner.take, place_skip, hr, hfs.place, Position.after, ofSource,
      Position.down, Nat.add_comm]
  · simp [Scanner.take, hfs.tokens, hfs.place, ofSource, Lexeme.token, Lexeme.plain]

/-- The tokens of two texts joined by a newline. -/
theorem tokensOf_join {a b : String} {e : Token} (ha : tokensOf a = .ok (us ++ [e]))
    (hb : tokensOf b = .ok vs) :
    tokensOf (a ++ "\n" ++ b) =
      .ok (us ++ ⟨.newline, .text "\n", e.place⟩ :: vs.map (Token.down e.place.line)) := by
  obtain ⟨s, hs, hsend, hus⟩ := tokensOf_eq_ok_iff.mp ha
  obtain ⟨t, ht, htend, rfl⟩ := tokensOf_eq_ok_iff.mp hb
  obtain ⟨rfl, he⟩ := List.append_inj' hus rfl
  obtain rfl : e = ⟨.eof, .null, s.place⟩ := by simpa using he
  obtain ⟨u, hu, hsecond⟩ := comes_second hs hsend b
  obtain ⟨t', ht', hft⟩ := hsecond.comes ht (cut_of_breaks (by simp [Breaks]) _)
  refine tokensOf_eq_ok_iff.mpr ⟨t', hu.trans ht', by simp [hft.rest, htend], ?_⟩
  simp [hft.tokens, hft.place, Token.down]

/-- The tokens of a text of at most `n` pieces, from a place on. Unlike the scanner this is quick to
work out for a given text. -/
def tokensFrom? : Nat → Position → List Char → Option (List Token)
  | _, p, [] => some [⟨.eof, .null, p⟩]
  | 0, _, _ :: _ => none
  | n + 1, p, c :: cs =>
    if isGap c then tokensFrom? n (p.after c) cs
    else
      (piece? (c :: cs)).bind fun r =>
        (tokensFrom? n (((c :: cs).take r.1).foldl Position.after p)
          ((c :: cs).drop r.1)).map fun ts => (r.2.map fun l => l.token p).toList ++ ts

theorem comes_of_tokensFrom? {p : Position}
    (h : tokensFrom? n p text = some us) (hr : s.rest = text) (hp : s.place = p) :
    ∃ t vs, Comes s t ∧ t.rest = [] ∧ t.tokens.toList = s.tokens.toList ++ vs ∧
      us = vs ++ [⟨.eof, .null, t.place⟩] := by
  fun_induction tokensFrom? n p text generalizing s us with
  | case1 =>
    cases h
    exact ⟨s, [], .refl s, hr, by simp, by rw [hp]; rfl⟩
  | case2 => cases h
  | case3 n p c cs hc ih =>
    have hplace : (s.skip 1).place = p.after c := by
      rw [place_skip, hr, hp]
      rfl
    obtain ⟨t, vs, hcomes, hend, htokens, hus⟩ := ih h (by rw [rest_skip, hr]; rfl) hplace
    exact ⟨t, vs, .blank hr hc hcomes, hend, by rw [htokens, tokens_skip], hus⟩
  | case4 n p c cs hc ih =>
    obtain ⟨⟨k, l⟩, hpiece, h⟩ := Option.bind_eq_some_iff.mp h
    obtain ⟨ts, hts, rfl⟩ := Option.map_eq_some_iff.mp h
    have hplace : (s.take k l).place = ((c :: cs).take k).foldl Position.after p := by
      rw [← hr, ← hp, ← place_skip]
      cases l <;> rfl
    obtain ⟨t, vs, hcomes, hend, htokens, rfl⟩ := ih (k, l) hts (by rw [rest_take, hr]) hplace
    rw [← hr] at hpiece
    obtain ⟨hpos, -, -⟩ := piece?_spec hpiece
    have hless : (s.take k l).rest.length < s.rest.length := by
      rw [rest_take, List.length_drop, hr, List.length_cons]
      omega
    have hlexeme : lexeme c s = .ok () (s.take k l) := (lexeme_eq_ok_iff hr).mpr ⟨k, l, hpiece, rfl⟩
    refine ⟨t, (l.map fun l => l.token p).toList ++ vs, ?_, hend, ?_, by simp⟩
    · exact .lexeme hr (by simpa using hc) hlexeme hless hcomes
    · rw [htokens]
      cases l <;> simp [Scanner.take, hp]

theorem tokensOf_of_tokensFrom? {source : String}
    (h : tokensFrom? n ⟨1, 1⟩ source.toList = some us) :
    tokensOf source = .ok us := by
  obtain ⟨t, vs, hcomes, hend, htokens, rfl⟩ :=
    comes_of_tokensFrom? (s := ofSource source) h rfl rfl
  have hvs : t.tokens.toList = vs := by simpa [ofSource] using htokens
  exact tokensOf_eq_ok_iff.mpr ⟨t, hcomes, hend, by rw [hvs]⟩

end Runs

end Scanner
end FloScript
