import FloScript.Proofs.JoinedTexts

/-! How tokens are spelled, said without reading them: what is read next in a text is a token with
which the text begins, and the longest one. -/
namespace FloScript.Scanner

variable {c q : Char} {cs body lex rest text v : List Char} {n k : Nat} {kind : Kind}
  {value : Except Fault Literal}

/-- The inside of a string between quotes `q`, and the characters that it stands for. -/
inductive Quotes (q : Char) : List Char → List Char → Prop where
  | nil : Quotes q [] []
  | plain {c : Char} {body v : List Char} :
      c ≠ q → c ≠ '\\' → Quotes q body v → Quotes q (c :: body) (c :: v)
  | escaped {c : Char} {body v : List Char} :
      Quotes q body v → Quotes q ('\\' :: c :: body) (unescape c :: v)

/-- Characters that are one token, with its kind and its value. Some numbers have no value. -/
inductive Spelling : List Char → Kind → Except Fault Literal → Prop where
  | newline : Spelling ['\n'] .newline (.ok (.text "\n"))
  | string {q : Char} {body v : List Char} : q = '\x22' ∨ q = '\x27' → Quotes q body v →
      Spelling (q :: (body ++ [q])) .string (.ok (.text (String.ofList v)))
  | number {c : Char} {cs : List Char} :
      Text.isDigit c = true → (∀ d ∈ cs, d = '.' ∨ Text.isDigit d = true) →
      cs.count '.' ≤ 1 → Spelling (c :: cs) .number (numberValue (c :: cs))
  | word {c : Char} {cs : List Char} :
      (Text.isLetter c || c = '_') = true → Text.isDigit c = false →
      (∀ d ∈ cs, Text.isWordChar d = true) →
      Spelling (c :: cs) (.ofWordText (String.ofList (c :: cs)))
      (.ok (.text (String.ofList (c :: cs))))
  | pair {c d : Char} {kind : Kind} : Kind.pairOperator? c d = some kind →
      Spelling [c, d] kind (.ok (.text (String.ofList [c, d])))
  | single {c : Char} {kind : Kind} : Kind.operator? c = some kind →
      Spelling [c] kind (.ok (.text (String.ofList [c])))

theorem Spelling.ne_eof (h : Spelling lex kind value) : kind ≠ .eof := by
  cases h with
  | newline | string | number => simp
  | word => exact ofWordText_ne_eof _
  | pair hk => exact pairOperator?_ne_eof hk
  | single hk => exact operator?_ne_eof hk

theorem Spelling.ne_nil (h : Spelling lex kind value) : lex ≠ [] := by
  cases h <;> simp

/-- No piece of the rest can be added to the characters so that they stay one token. -/
def Longest (lex rest : List Char) : Prop :=
  ∀ more, more <+: rest → more ≠ [] → ∀ kind value, ¬ Spelling (lex ++ more) kind value

/-! The first character decides what is read. -/

theorem piece?_quote (hq : q = '\x22' ∨ q = '\x27') (cs : List Char) :
    piece? (q :: cs) = (stringBody q cs).map fun (v, n) =>
      (n + 1, some (.plain .string (String.ofList v))) := by
  rcases hq with rfl | rfl <;> rfl

theorem piece?_digit (hc : Text.isDigit c = true) (cs : List Char) :
    piece? (c :: cs) = (numberValue (numberRun false (c :: cs))).toOption.map fun v =>
      ((numberRun false (c :: cs)).length, some (.number, v)) := by
  have hne : ∀ d, Text.isDigit d = false → c ≠ d := by
    rintro d hd rfl
    rw [hc] at hd
    cases hd
  have hquote : ¬(c = '\x22' || c = '\x27') = true := by
    simp [hne '\x22' (by decide), hne '\x27' (by decide)]
  rw [piece?, if_neg (hne '#' (by decide)), if_neg (hne '\n' (by decide)), if_neg hquote, if_pos hc]
  cases numberValue (numberRun false (c :: cs)) with
  | ok v => rfl
  | error e => rfl

theorem piece?_word (hc : (Text.isLetter c || c = '_') = true)
    (hd : Text.isDigit c = false) (cs : List Char) :
    piece? (c :: cs) = some (((c :: cs).takeWhile Text.isWordChar).length,
      some (.plain (.ofWordText (String.ofList ((c :: cs).takeWhile Text.isWordChar)))
        (String.ofList ((c :: cs).takeWhile Text.isWordChar)))) := by
  have hne : ∀ d, (Text.isLetter d || d = '_') = false → c ≠ d := by
    rintro d hd rfl
    rw [hc] at hd
    cases hd
  have hquote : ¬(c = '\x22' || c = '\x27') = true := by
    simp [hne '\x22' (by decide), hne '\x27' (by decide)]
  rw [piece?, if_neg (hne '#' (by decide)), if_neg (hne '\n' (by decide)),
    if_neg hquote, if_neg (by simp [hd]),
    if_pos hc]

/-- The characters with which operators begin. -/
structure IsSign (c : Char) : Prop where
  comment : c ≠ '#'
  line : c ≠ '\n'
  quote : ¬(c = '\x22' || c = '\x27') = true
  digit : ¬Text.isDigit c = true
  letter : ¬(Text.isLetter c || c = '_') = true

theorem piece?_gap (hc : isGap c = true) (cs : List Char) : piece? (c :: cs) = none := by
  simp only [isGap, Bool.or_eq_true, decide_eq_true_eq] at hc
  rcases hc with (rfl | rfl) | rfl <;> cases cs <;> rfl

/-- Whatever is read next, the scanner comes to the end of it. -/
theorem comes_of_piece {s : Scanner} {l : Option Lexeme} (h : piece? s.rest = some (n, l)) :
    Comes s (s.take n l) := by
  cases hr : s.rest with
  | nil =>
    rw [hr] at h
    cases h
  | cons c cs =>
    refine comes_of_lexeme hr ?_ ((lexeme_eq_ok_iff hr).mpr ⟨n, l, h, rfl⟩)
    cases hc : isGap c with
    | false => rfl
    | true =>
      rw [hr, piece?_gap hc] at h
      cases h

theorem isSign_of_pair {d : Char} (h : Kind.pairOperator? c d = some kind) : IsSign c := by
  unfold Kind.pairOperator? at h
  split at h <;> cases h <;> exact ⟨by decide, by decide, by decide, by decide, by decide⟩

theorem isSign_of_operator (h : Kind.operator? c = some kind) : IsSign c := by
  unfold Kind.operator? at h
  split at h <;> cases h <;> exact ⟨by decide, by decide, by decide, by decide, by decide⟩

theorem piece?_sign (h : IsSign c) (cs : List Char) :
    piece? (c :: cs) =
      (((cs[0]?).bind (Kind.pairOperator? c)).map fun kind =>
        (2, some (.plain kind (String.ofList ((c :: cs).take 2))))).or
      ((Kind.operator? c).map fun kind => (1, some (.plain kind (String.ofList [c])))) := by
  rw [piece?, if_neg h.comment, if_neg h.line, if_neg h.quote, if_neg h.digit, if_neg h.letter]
  cases (cs[0]?).bind (Kind.pairOperator? c) with
  | none => rfl
  | some kind => rfl

/-- Quotes are read up to the first quote that is not escaped. -/
theorem stringBody_quotes (hq : q ≠ '\\') (h : Quotes q body v) (rest : List Char) :
    stringBody q (body ++ q :: rest) = some (v, body.length + 1) := by
  induction h with
  | nil => simp [stringBody]
  | plain hc _ _ ih => simp [stringBody, hc, ih]
  | escaped _ ih => simp [stringBody, hq, ih]

theorem quotes_of_stringBody (hq : q ≠ '\\') (h : stringBody q cs = some (v, n)) :
    ∃ body, Quotes q body v ∧ cs.take n = body ++ [q] := by
  fun_induction stringBody q cs generalizing v n with
  | case1 | case3 => cases h
  | case2 cs he => exact absurd he hq
  | case4 _ c cs ih =>
    obtain ⟨⟨w, m⟩, hw, he⟩ := Option.map_eq_some_iff.mp h
    cases he
    obtain ⟨body, hbody, htake⟩ := ih hw
    exact ⟨'\\' :: c :: body, .escaped hbody, by simp [htake]⟩
  | case5 cs _ =>
    cases h
    exact ⟨[], .nil, by simp⟩
  | case6 c cs hc hne ih =>
    obtain ⟨⟨w, m⟩, hw, he⟩ := Option.map_eq_some_iff.mp h
    cases he
    obtain ⟨body, hbody, htake⟩ := ih hw
    exact ⟨c :: body, .plain hne hc hbody, by simp [htake]⟩

/-- How many points a number may still have. -/
def pointsLeft (pointed : Bool) : Nat := if pointed then 0 else 1

theorem numberRun_digits (b : Bool) (hd : ∀ d ∈ cs, d = '.' ∨ Text.isDigit d = true)
    (hp : cs.count '.' ≤ pointsLeft b) (rest : List Char) : cs <+: numberRun b (cs ++ rest) := by
  induction cs generalizing b with
  | nil => simp
  | cons c cs ih =>
    have hrest : ∀ d ∈ cs, d = '.' ∨ Text.isDigit d = true := fun d h => hd d (by simp [h])
    by_cases hc : c = '.'
    · subst hc
      cases b with
      | true => simp [pointsLeft] at hp
      | false =>
        have hno : cs.count '.' ≤ pointsLeft true := by simpa [pointsLeft] using hp
        simpa [numberRun] using ih true hrest hno
    · have hdigit : Text.isDigit c = true := (hd c (by simp)).resolve_left hc
      have hp' : cs.count '.' ≤ pointsLeft b := by simpa [hc] using hp
      simpa [numberRun, hc, hdigit] using ih b hrest hp'

theorem numberRun_shape (b : Bool) (cs : List Char) :
    numberRun b cs <+: cs ∧ (∀ d ∈ numberRun b cs, d = '.' ∨ Text.isDigit d = true) ∧
      (numberRun b cs).count '.' ≤ pointsLeft b := by
  induction cs generalizing b with
  | nil => simp [numberRun]
  | cons c cs ih =>
    by_cases hc : c = '.'
    · subst hc
      cases b with
      | true => simp [numberRun]
      | false =>
        obtain ⟨hpre, hall, hcount⟩ := ih true
        simp_all [numberRun, pointsLeft]
    · cases hd : Text.isDigit c with
      | false => simp [numberRun, hc, hd]
      | true =>
        obtain ⟨hpre, hall, hcount⟩ := ih b
        simp_all [numberRun]

theorem numberRun_cons (hc : Text.isDigit c = true) (cs : List Char) :
    numberRun false (c :: cs) = c :: numberRun false cs := by
  have hne : c ≠ '.' := by
    rintro rfl
    revert hc
    decide
  rw [numberRun, if_neg hne, if_pos hc]

/-- The characters that are read as a number are one, whatever their value. -/
theorem spelling_number (hc : Text.isDigit c = true) (cs : List Char) :
    Spelling (numberRun false (c :: cs)) .number (numberValue (numberRun false (c :: cs))) := by
  obtain ⟨-, hall, hcount⟩ := numberRun_shape false cs
  rw [numberRun_cons hc]
  exact .number hc hall hcount

theorem spelling_word (hc : (Text.isLetter c || c = '_') = true)
    (hd : Text.isDigit c = false) (cs : List Char) :
    Spelling ((c :: cs).takeWhile Text.isWordChar)
      (.ofWordText (String.ofList ((c :: cs).takeWhile Text.isWordChar)))
      (.ok (.text (String.ofList ((c :: cs).takeWhile Text.isWordChar)))) := by
  rw [List.takeWhile_cons_of_pos (isWordChar_of_opens hc)]
  exact .word hc hd fun d h => List.mem_takeWhile_imp h

/-- What is read as a token is one. -/
theorem spelling_of_piece {l : Lexeme} (h : piece? text = some (k, some l)) :
    Spelling (text.take k) l.1 (.ok l.2) := by
  cases text with
  | nil => cases h
  | cons c cs =>
    rw [piece?] at h
    split at h
    · cases h
    split at h
    · next hc =>
      subst hc
      cases h
      exact .newline
    split at h
    · next hq =>
      have hquote : c = '\x22' ∨ c = '\x27' := by simpa using hq
      have hne : c ≠ '\\' := by
        rintro rfl
        revert hq
        decide
      obtain ⟨⟨v, n⟩, hbody, hv⟩ := Option.map_eq_some_iff.mp h
      cases hv
      obtain ⟨body, hquotes, htake⟩ := quotes_of_stringBody hne hbody
      rw [List.take_succ_cons, htake]
      exact .string hquote hquotes
    split at h
    · next hd =>
      split at h
      · next v hv =>
        cases h
        have htake :
            (c :: cs).take (numberRun false (c :: cs)).length = numberRun false (c :: cs) :=
          (List.prefix_iff_eq_take.mp (numberRun_shape false (c :: cs)).1).symm
        have hspell := spelling_number hd cs
        rw [hv] at hspell
        rw [htake]
        exact hspell
      · cases h
    split at h
    · next hd hw =>
      cases h
      have htake : (c :: cs).take ((c :: cs).takeWhile Text.isWordChar).length =
          (c :: cs).takeWhile Text.isWordChar :=
        (List.prefix_iff_eq_take.mp (List.takeWhile_prefix _)).symm
      rw [htake]
      exact spelling_word hw (by simpa using hd) cs
    split at h
    · next kind hk =>
      cases h
      obtain ⟨d, hd, hk⟩ := Option.bind_eq_some_iff.mp hk
      cases cs with
      | nil => cases hd
      | cons e cs =>
        cases hd
        exact .pair hk
    · obtain ⟨kind, hk, hv⟩ := Option.map_eq_some_iff.mp h
      cases hv
      exact .single hk

/-- What is read is at least as long as every token with which the text begins. -/
theorem Spelling.length_le {l : Option Lexeme} (h : Spelling lex kind value)
    (hp : piece? (lex ++ rest) = some (k, l)) : lex.length ≤ k := by
  obtain ⟨hpos, -, -⟩ := piece?_spec hp
  cases h with
  | newline | single => exact hpos
  | @string q body v hq hquotes =>
    have hne : q ≠ '\\' := by rcases hq with rfl | rfl <;> decide
    rw [List.cons_append, piece?_quote hq, List.append_assoc, List.singleton_append,
      stringBody_quotes hne hquotes] at hp
    cases hp
    simp
  | @number c cs hc hall hcount =>
    have hpre := numberRun_digits false hall hcount rest
    have hlen := hpre.length_le
    rw [List.cons_append, piece?_digit hc] at hp
    obtain ⟨v, -, hv⟩ := Option.map_eq_some_iff.mp hp
    cases hv
    rw [numberRun_cons hc]
    simpa using hlen
  | @word c cs hc hd hall =>
    rw [List.cons_append, piece?_word hc hd, List.takeWhile_cons_of_pos (isWordChar_of_opens hc),
      List.takeWhile_append_of_pos hall] at hp
    cases hp
    simp
  | @pair c d kind hk =>
    rw [List.cons_append, piece?_sign (isSign_of_pair hk)] at hp
    simp only [List.cons_append, List.nil_append, List.getElem?_cons_zero,
      Option.bind_some, hk, Option.map_some, Option.some_or] at hp
    cases hp
    simp

/-- What is read as a token is as long as it can be. -/
theorem longest_of_piece {l : Option Lexeme} (h : piece? text = some (k, l)) :
    Longest (text.take k) (text.drop k) := by
  rintro more ⟨rest, hrest⟩ hne kind value hspell
  have hle := (piece?_spec h).2.1
  have htext : text = text.take k ++ more ++ rest := by
    rw [List.append_assoc, hrest, List.take_append_drop]
  rw [htext] at h
  have hlen := hspell.length_le h
  have hmore : 0 < more.length := List.length_pos_iff.mpr hne
  rw [List.length_append, List.length_take, Nat.min_eq_left hle] at hlen
  omega

/-- A token that is as long as it can be is read. -/
theorem Spelling.piece {x : Literal} (h : Spelling lex kind (.ok x)) (hl : Longest lex rest) :
    piece? (lex ++ rest) = some (lex.length, some (kind, x)) := by
  generalize hvalue : (Except.ok x : Except Fault Literal) = value at h
  cases h with
  | newline =>
    cases hvalue
    rfl
  | @string q body v hq hquotes =>
    cases hvalue
    have hne : q ≠ '\\' := by rcases hq with rfl | rfl <;> decide
    rw [List.cons_append, piece?_quote hq, List.append_assoc, List.singleton_append,
      stringBody_quotes hne hquotes]
    simp [Lexeme.plain]
  | @number c cs hc hall hcount =>
    obtain ⟨more, hmore⟩ := numberRun_digits false hall hcount rest
    have hrun : numberRun false (c :: cs ++ rest) = c :: cs ++ more := by
      rw [List.cons_append, numberRun_cons hc, ← hmore, List.cons_append]
    have hpre : more <+: rest := by
      have h := (numberRun_shape false (c :: cs ++ rest)).1
      rw [hrun] at h
      exact (List.prefix_append_right_inj _).mp h
    have hnil : more = [] := by
      by_contra hne
      have hspell := spelling_number hc (cs ++ rest)
      rw [← List.cons_append, hrun] at hspell
      exact hl more hpre hne _ _ hspell
    rw [hnil, List.append_nil] at hrun
    have hpiece := piece?_digit hc (cs ++ rest)
    rw [← List.cons_append, hrun, ← hvalue] at hpiece
    exact hpiece
  | @word c cs hc hd hall =>
    cases hvalue
    have hrun :
        (c :: cs ++ rest).takeWhile Text.isWordChar =
          c :: cs ++ rest.takeWhile Text.isWordChar := by
      rw [List.cons_append, List.takeWhile_cons_of_pos (isWordChar_of_opens hc),
        List.takeWhile_append_of_pos hall, List.cons_append]
    have hnil : rest.takeWhile Text.isWordChar = [] := by
      by_contra hne
      have hspell := spelling_word hc hd (cs ++ rest)
      rw [← List.cons_append, hrun] at hspell
      exact hl _ (List.takeWhile_prefix _) hne _ _ hspell
    rw [hnil, List.append_nil] at hrun
    rw [List.cons_append, piece?_word hc hd, ← List.cons_append, hrun]
    rfl
  | @pair c d kind hk =>
    cases hvalue
    rw [List.cons_append, piece?_sign (isSign_of_pair hk)]
    simp [hk, Lexeme.plain]
  | @single c kind hk =>
    cases hvalue
    have hnone : (rest[0]?).bind (Kind.pairOperator? c) = none := by
      cases rest with
      | nil => rfl
      | cons d rest =>
        cases hpair : Kind.pairOperator? c d with
        | none => simp [hpair]
        | some j => exact absurd (Spelling.pair hpair) (hl [d] (by simp) (by simp) _ _)
    have hpiece := piece?_sign (isSign_of_operator hk) rest
    rw [hnone, hk] at hpiece
    exact hpiece

end FloScript.Scanner
