import Mathlib.Data.List.TakeWhile
import FloScript.Proofs.Printing
import FloScript.Scanner

/-! Scanning piece by piece. A piece of a text yields its lexemes whatever was read before it, if
what follows cannot lengthen its last lexeme. -/
namespace FloScript.Scanner

variable {s s' t : Scanner} {c : Char} {cs ds rest : List Char} {ls ms : List Lexeme}

@[simp] theorem rest_skip (n : Nat) (s : Scanner) : (s.skip n).rest = s.rest.drop n := by
  induction n generalizing s with
  | zero => simp [skip]
  | succ n ih =>
    rw [skip]
    cases h : s.rest with
    | nil => simp [h]
    | cons c cs => simp [ih]

@[simp] theorem tokens_skip (n : Nat) (s : Scanner) : (s.skip n).tokens = s.tokens := by
  induction n generalizing s with
  | zero => rfl
  | succ n ih =>
    rw [skip]
    cases s.rest with
    | nil => rfl
    | cons c cs => exact ih _

theorem skip_succ (n : Nat) (s : Scanner) : s.skip (n + 1) = (s.skip 1).skip n := by
  cases h : s.rest with
  | nil =>
    cases n with
    | zero => rfl
    | succ n => simp [skip, h]
  | cons c cs => simp [skip, h]

/-- The scanner comes from one state to another by passing over blanks and reading lexemes. -/
inductive Comes : Scanner → Scanner → Prop where
  | refl (s : Scanner) : Comes s s
  | blank {s t : Scanner} {c : Char} {cs : List Char} :
      s.rest = c :: cs → isGap c = true → Comes (s.skip 1) t → Comes s t
  | lexeme {s s' t : Scanner} {c : Char} {cs : List Char} :
      s.rest = c :: cs → isGap c = false → lexeme c s = .ok () s' → s'.rest.length < s.rest.length →
      Comes s' t → Comes s t

theorem Comes.trans (h : Comes s s') (h' : Comes s' t) : Comes s t := by
  induction h with
  | refl => exact h'
  | blank hr hc _ ih => exact .blank hr hc (ih h')
  | lexeme hr hc hl hlt _ ih => exact .lexeme hr hc hl hlt (ih h')

/-- The state after the blanks that come next. -/
def unblanked (s : Scanner) : Scanner := s.skip (s.rest.takeWhile isGap).length

theorem unblanked_blank (hr : s.rest = c :: cs) (hc : isGap c = true) :
    s.unblanked = (s.skip 1).unblanked := by
  have hl : (s.rest.takeWhile isGap).length = (cs.takeWhile isGap).length + 1 := by simp [hr, hc]
  rw [unblanked, hl, skip_succ, unblanked, rest_skip, hr, List.drop_one, List.tail_cons]

theorem unblanked_of_not_gap (hr : s.rest = c :: cs) (hc : isGap c = false) : s.unblanked = s := by
  simp [unblanked, hr, hc, skip]

theorem lexemes_succ (n : Nat) (s : Scanner) :
    lexemes (n + 1) s =
      (match s.unblanked.rest with
      | [] => pure ()
      | c :: _ => do
        lexeme c
        lexemes n : Scan Unit) s.unblanked := rfl

theorem lexemes_blank (n : Nat) (hr : s.rest = c :: cs) (hc : isGap c = true) :
    lexemes (n + 1) s = lexemes (n + 1) (s.skip 1) := by
  rw [lexemes_succ, lexemes_succ, unblanked_blank hr hc]

theorem lexemes_lexeme (n : Nat) (hr : s.rest = c :: cs) (hc : isGap c = false)
    (hl : lexeme c s = .ok () t) :
    lexemes (n + 1) s = lexemes n t := by
  rw [lexemes_succ, unblanked_of_not_gap hr hc, hr]
  change EStateM.bind (lexeme c) (fun _ => lexemes n) s = _
  simp only [EStateM.bind, hl]

theorem lexemes_end (h : s.rest = []) (n : Nat) : lexemes n s = .ok () s := by
  have hu : s.unblanked = s := by simp [unblanked, h, skip]
  cases n with
  | zero => rfl
  | succ n =>
    rw [lexemes_succ, hu, h]
    rfl

/-- As many rounds as there are characters are enough to read all of them. -/
theorem lexemes_of_comes (h : Comes s t) (ht : t.rest = []) (n : Nat) (hn : s.rest.length ≤ n) :
    lexemes n s = .ok () t := by
  induction h generalizing n with
  | refl s => exact lexemes_end ht n
  | @blank s t c cs hr hc _ ih =>
    rw [hr, List.length_cons] at hn
    obtain ⟨m, rfl⟩ : ∃ m, n = m + 1 := ⟨n - 1, by omega⟩
    rw [lexemes_blank m hr hc]
    exact ih ht (m + 1) (by simp [hr]; omega)
  | @lexeme s s' t c cs hr hc hl hlt _ ih =>
    obtain ⟨m, rfl⟩ : ∃ m, n = m + 1 := ⟨n - 1, by omega⟩
    rw [lexemes_lexeme m hr hc hl]
    exact ih ht m (by omega)

/-- What follows cannot lengthen a number. -/
def Bounded (rest : List Char) : Prop := ∀ c ∈ rest.head?, c ≠ '.' ∧ Text.isDigit c = false

theorem bounded_cons (hp : c ≠ '.') (hd : Text.isDigit c = false) (cs : List Char) :
    Bounded (c :: cs) := by
  rintro d ⟨⟩
  exact ⟨hp, hd⟩

theorem bounded_gap (hc : isGap c = true) (cs : List Char) : Bounded (c :: cs) := by
  simp only [isGap, Bool.or_eq_true, decide_eq_true_eq] at hc
  rcases hc with (rfl | rfl) | rfl <;> exact bounded_cons (by decide) (by decide) cs

/-- The piece `cs` of a text is read as `ls`. -/
def Yields (cs : List Char) (ls : List Lexeme) : Prop :=
  ∀ s rest, s.rest = cs ++ rest → Bounded rest →
    ∃ t ts, Comes s t ∧ t.rest = rest ∧ t.tokens.toList = s.tokens.toList ++ ts ∧
    ts.map Token.lexeme = ls

theorem Yields.append (h : Yields cs ls) (h' : Yields ds ms)
    (hb : ∀ rest, Bounded rest → Bounded (ds ++ rest)) :
    Yields (cs ++ ds) (ls ++ ms) := by
  intro s rest hs hr
  rw [List.append_assoc] at hs
  obtain ⟨t, ts, hc, ht, hk, hl⟩ := h s (ds ++ rest) hs (hb rest hr)
  obtain ⟨u, us, hc', hu, hk', hl'⟩ := h' t rest ht hr
  refine ⟨u, ts ++ us, hc.trans hc', hu, ?_, ?_⟩
  · rw [hk', hk, List.append_assoc]
  · rw [List.map_append, hl, hl']

theorem yields_nil : Yields [] [] := by
  intro s rest hs _
  exact ⟨s, [], .refl s, hs, by simp, rfl⟩

theorem Yields.blank (hc : isGap c = true) (h : Yields cs ls) : Yields (c :: cs) ls := by
  intro s rest hs hb
  obtain ⟨t, ts, hcomes, ht, hk, hl⟩ := h (s.skip 1) rest (by simp [hs]) hb
  refine ⟨t, ts, .blank hs hc hcomes, ht, ?_, hl⟩
  rw [hk, tokens_skip]

/-- The characters that are tokens of their own whatever follows them. -/
structure IsSymbol (c : Char) (k : Kind) : Prop where
  gap : isGap c = false
  comment : c ≠ '#'
  line : c ≠ '\n'
  quote : (c = '\x22' || c = '\x27') = false
  digit : Text.isDigit c = false
  letter : (Text.isLetter c || c = '_') = false
  operator : Kind.operator? c = some k
  alone : ∀ d, Kind.pairOperator? c d = none

theorem lexeme_symbol {k : Kind} (h : IsSymbol c k) (s : Scanner) :
    lexeme c s = pushOperator k 1 s := by
  have hnone : (s.rest[1]?).bind (Kind.pairOperator? c) = none := by
    cases s.rest[1]? with
    | none => rfl
    | some d => exact h.alone d
  unfold lexeme
  change (if c = '#' then _ else _ : Scan Unit) s = _
  rw [if_neg h.comment, if_neg h.line, if_neg (by simp [h.quote]), if_neg (by simp [h.digit]),
    if_neg (by simp [h.letter]), hnone]
  simp only [h.operator]

theorem Yields.symbol {k : Kind} (hc : IsSymbol c k) (h : Yields cs ls) :
    Yields (c :: cs) (.plain k (String.ofList [c]) :: ls) := by
  intro s rest hs hb
  let o : Token := ⟨k, .text (String.ofList (s.rest.take 1)), s.place⟩
  let s' : Scanner := ({ s with tokens := s.tokens.push o } : Scanner).skip 1
  have hlex : lexeme c s = .ok () s' := lexeme_symbol hc s
  obtain ⟨t, ts, hcomes, ht, hk, hl⟩ := h s' rest (by simp [s', hs]) hb
  refine ⟨t, o :: ts, .lexeme hs hc.gap hlex (by simp [s', hs]) hcomes, ht, ?_, ?_⟩
  · rw [hk]
    simp [s']
  · rw [List.map_cons, hl]
    simp [o, hs, Token.lexeme, Lexeme.plain]

section Numbers

theorem toNat_of_isDigit (h : c.isDigit = true) : 48 ≤ c.toNat ∧ c.toNat ≤ 57 := by
  simpa [Char.isDigit, UInt32.le_iff_toNat_le] using h

theorem ne_of_isDigit {d : Char} (h : c.isDigit = true) (hd : d.isDigit = false) : c ≠ d := by
  rintro rfl
  rw [h] at hd
  cases hd

theorem isAscii_of_isDigit (h : c.isDigit = true) : Text.isAscii c = true := by
  have hc := toNat_of_isDigit h
  simp only [Text.isAscii, decide_eq_true_eq]
  omega

theorem isDigit_of_isDigit (h : c.isDigit = true) : Text.isDigit c = true := by
  simp [Text.isDigit, isAscii_of_isDigit h, h]

theorem numberRun_append (hd : ∀ c ∈ ds, c.isDigit = true) (hb : Bounded rest) :
    numberRun false (ds ++ rest) = ds := by
  induction ds with
  | nil =>
    cases rest with
    | nil => rfl
    | cons c cs =>
      obtain ⟨hp, hc⟩ := hb c rfl
      simp [numberRun, hp, hc]
  | cons d ds ih =>
    have h := hd d (by simp)
    rw [List.cons_append, numberRun, if_neg (ne_of_isDigit h rfl), if_pos (isDigit_of_isDigit h),
      ih fun c hc => hd c (by simp [hc])]

theorem underscoresBetween_digits (hd : ∀ c ∈ ds, c.isDigit = true) (b : Bool) :
    Number.underscoresBetween b ds = true := by
  induction ds generalizing b with
  | nil => rfl
  | cons d ds ih =>
    have h := hd d (by simp)
    rw [Number.underscoresBetween.eq_3 _ _ _ (fun he => ne_of_isDigit h rfl he)]
    exact ih (fun c hc => hd c (by simp [hc])) _

theorem asciiText_digits (hd : ∀ c ∈ ds, c.isDigit = true) :
    Number.asciiText (String.ofList ds) = ds := by
  simp only [Number.asciiText, String.toList_ofList]
  rw [if_pos (List.all_eq_true.mpr fun c hc => isAscii_of_isDigit (hd c hc))]

theorem takeSign_digits (hd : ∀ c ∈ ds, c.isDigit = true) : Number.takeSign ds = (false, ds) := by
  unfold Number.takeSign
  split
  · exact absurd (hd '+' (by simp)) (by decide)
  · exact absurd (hd '-' (by simp)) (by decide)
  · rfl

theorem dropWhile_blank_digits (hd : ∀ c ∈ ds, c.isDigit = true) :
    ds.dropWhile Text.isAsciiBlank = ds := by
  cases ds with
  | nil => rfl
  | cons d ds =>
    have h := hd d (by simp)
    have hn := toNat_of_isDigit h
    have hb : Text.isAsciiBlank d = false := by
      simp only [Text.isAsciiBlank, Bool.or_eq_false_iff, Bool.and_eq_false_iff,
        decide_eq_false_iff_not]
      exact ⟨ne_of_isDigit h rfl, .inr (by omega)⟩
    rw [List.dropWhile_cons_of_neg (by simp [hb])]

/-- Digits within the limit are read as the number they write, after the sign in front of them. -/
theorem readInteger_of_takeSign {text : String} {negative : Bool}
    (hs : Number.takeSign ((Number.asciiText text).dropWhile Text.isAsciiBlank) = (negative, ds))
    (hd : ∀ c ∈ ds, c.isDigit = true) (hne : ds ≠ []) (hl : ds.length ≤ Number.digitLimit) :
    Number.readInteger text =
      .ok (if negative then -(Number.digitsValue ds : Int) else Number.digitsValue ds) := by
  have hin : ∀ c ∈ ds, (c.isDigit || c = '_') = true := fun c hc => by simp [hd c hc]
  have htake : ds.takeWhile (fun c => c.isDigit || c = '_') = ds :=
    List.takeWhile_eq_self_iff.mpr hin
  have hdrop : ds.dropWhile (fun c => c.isDigit || c = '_') = [] :=
    List.dropWhile_eq_nil_iff.mpr hin
  have hcount : ds.countP Char.isDigit = ds.length := List.countP_eq_length.mpr hd
  unfold Number.readInteger
  rw [hs]
  simp only [htake, hdrop, hcount, underscoresBetween_digits hd]
  rw [if_neg (by simp [hne]), if_neg (by omega), if_neg (by simp)]

theorem readInteger_digits (hd : ∀ c ∈ ds, c.isDigit = true) (hne : ds ≠ [])
    (hl : ds.length ≤ Number.digitLimit) :
    Number.readInteger (String.ofList ds) = .ok (Number.digitsValue ds) := by
  have hs :
      Number.takeSign ((Number.asciiText (String.ofList ds)).dropWhile Text.isAsciiBlank) =
        (false, ds) := by
    rw [asciiText_digits hd, dropWhile_blank_digits hd, takeSign_digits hd]
  rw [readInteger_of_takeSign hs hd hne hl]
  rfl

theorem numberValue_digits (hd : ∀ c ∈ ds, c.isDigit = true) (hne : ds ≠ [])
    (hl : ds.length ≤ Number.digitLimit) : numberValue ds = .ok (.int (Number.digitsValue ds)) := by
  have hpoint : ds.contains '.' = false := by
    simp only [List.contains_eq_mem, decide_eq_false_iff_not]
    intro h
    exact absurd (hd '.' h) (by decide)
  unfold numberValue
  simp only [hpoint, readInteger_digits hd hne hl]
  rfl

theorem readNumber_eq (s : Scanner) : readNumber s =
    match numberValue (numberRun false s.rest) with
    | .ok v => .ok v (s.skip (numberRun false s.rest).length)
    | .error e => .error e (s.skip (numberRun false s.rest).length) := by
  change (match numberValue (numberRun false s.rest) with
    | .ok v => pure v
    | .error e => throw e : Scan Literal) (s.skip (numberRun false s.rest).length) = _
  cases numberValue (numberRun false s.rest) <;> rfl

theorem readNumber_digits (hd : ∀ c ∈ ds, c.isDigit = true) (hne : ds ≠ [])
    (hl : ds.length ≤ Number.digitLimit) (hs : s.rest = ds ++ rest) (hb : Bounded rest) :
    readNumber s = .ok (.int (Number.digitsValue ds)) (s.skip ds.length) := by
  have hrun : numberRun false s.rest = ds := by rw [hs, numberRun_append hd hb]
  rw [readNumber_eq, hrun, numberValue_digits hd hne hl]

theorem lexeme_digit {v : Literal} (hc : c.isDigit = true) (h : readNumber s = .ok v t) :
    lexeme c s = .ok () { t with tokens := t.tokens.push ⟨.number, v, s.place⟩ } := by
  have hquote : ¬(c = '\x22' || c = '\x27') = true := by
    simp [ne_of_isDigit hc (d := '\x22') rfl, ne_of_isDigit hc (d := '\x27') rfl]
  unfold lexeme
  change (if c = '#' then _ else _ : Scan Unit) s = _
  rw [if_neg (ne_of_isDigit hc rfl), if_neg (ne_of_isDigit hc rfl), if_neg hquote,
    if_pos (isDigit_of_isDigit hc)]
  change EStateM.bind readNumber _ s = _
  simp only [EStateM.bind, h]
  rfl

theorem yields_number (hd : ∀ c ∈ ds, c.isDigit = true) (hne : ds ≠ [])
    (hl : ds.length ≤ Number.digitLimit) :
    Yields ds [(.number, .int (Number.digitsValue ds))] := by
  intro s rest hs hb
  have hlex := fun c hc => lexeme_digit (c := c) hc (readNumber_digits hd hne hl hs hb)
  cases ds with
  | nil => exact absurd rfl hne
  | cons d ds =>
    have hdigit := hd d (by simp)
    have hgap : isGap d = false := by
      simp [isGap, ne_of_isDigit hdigit (d := ' ') rfl, ne_of_isDigit hdigit (d := '\t') rfl,
        ne_of_isDigit hdigit (d := '\r') rfl]
    refine ⟨_, [⟨.number, .int (Number.digitsValue (d :: ds)), s.place⟩],
      .lexeme hs hgap (hlex d hdigit) ?_ (.refl _), ?_, ?_, rfl⟩
    · change (s.skip (d :: ds).length).rest.length < s.rest.length
      rw [rest_skip, hs]
      simp only [List.length_drop, List.length_append, List.length_cons]
      omega
    · simp [hs]
    · simp

end Numbers

theorem tokenize_of_ok (h : lexemes s.rest.length s = .ok () t) :
    tokenize s = .ok (t.tokens.push ⟨.eof, .null, t.place⟩)
      { t with tokens := t.tokens.push ⟨.eof, .null, t.place⟩ } := by
  unfold tokenize
  change EStateM.bind (lexemes s.rest.length) _ s = _
  simp only [EStateM.bind, h]
  rfl

theorem tokenize_of_error {e : Fault} (h : lexemes s.rest.length s = .error e t) :
    tokenize s = .error e t := by
  unfold tokenize
  change EStateM.bind (lexemes s.rest.length) _ s = _
  simp only [EStateM.bind, h]

theorem tokensOf_eq (source : String) :
    tokensOf source = match lexemes (ofSource source).rest.length (ofSource source) with
      | .ok _ t => .ok (t.tokens.toList ++ [⟨.eof, .null, t.place⟩])
      | .error e _ => .error e := by
  cases hl : lexemes (ofSource source).rest.length (ofSource source) with
  | ok v t =>
    rw [tokensOf, tokenize_of_ok hl]
    simp
  | error e t => rw [tokensOf, tokenize_of_error hl]

theorem tokensOf_of_comes {source : String} (h : Comes (ofSource source) t) (ht : t.rest = []) :
    tokensOf source = .ok (t.tokens.toList ++ [⟨.eof, .null, t.place⟩]) := by
  rw [tokensOf_eq, lexemes_of_comes h ht _ (Nat.le_refl _)]

/-- A text that is read to its end has the tokens read and the end mark. -/
theorem tokensOf_of_yields {source : String} (h : Yields source.toList ls) :
    ∃ ts e, tokensOf source = .ok (ts ++ [e]) ∧ ts.map Token.lexeme = ls ∧ e.kind = .eof := by
  obtain ⟨t, ts, hc, ht, hk, hl⟩ := h (ofSource source) [] (by simp [ofSource]) (by simp [Bounded])
  have hts : t.tokens.toList = ts := by simpa [ofSource] using hk
  refine ⟨ts, ⟨.eof, .null, t.place⟩, ?_, hl, rfl⟩
  rw [tokensOf_of_comes hc ht, hts]

end FloScript.Scanner
