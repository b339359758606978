import FloScript.Proofs.EndStates
import FloScript.Proofs.Tiling

/-! Texts that cannot be read. Reading stops at a flaw: a string without an end, a number without a
value, or a character with which nothing begins. Which flaw it is depends on the text alone, and its
place moves with the text. -/
namespace FloScript

/-- The fault, `k` lines further down. Only faults of reading have a place of their own. -/
def Fault.down (k : Nat) : Fault → Fault
  | .lexical p cause => .lexical (p.down k) cause
  | f => f

namespace Scanner

variable {s s' t u : Scanner} {c : Char} {cs text : List Char} {n k : Nat} {f : Fault}

/-- Why what comes next in a text cannot be read. -/
inductive Flaw where
  | openString
  | number (cause : ValueFault)
  | character (c : Char)

/-- The fault of a flaw, if reading stops at the place `p`. -/
def Flaw.fault (p : Position) : Flaw → Fault
  | openString => .lexical p .unterminatedString
  | number cause => .value cause
  | character c => .lexical p (.unexpectedCharacter c)

variable {w : Flaw}

theorem Flaw.fault_down (k : Nat) (p : Position) (w : Flaw) :
    w.fault (p.down k) = (w.fault p).down k := by
  cases w <;> rfl

section Pieces

/-- The flaw with which a text begins, if there is one, and how many characters are passed over
before it is found. -/
def flaw? : List Char → Option (Nat × Flaw)
  | [] => none
  | c :: cs =>
    if isGap c || c = '#' || c = '\n' then none
    else if c = '\x22' || c = '\x27' then
      if (stringBody c cs).isNone then some (cs.length + 1, .openString) else none
    else if Text.isDigit c then
      match numberValue (numberRun false (c :: cs)) with
      | .error (.value cause) => some ((numberRun false (c :: cs)).length, .number cause)
      | _ => none
    else if Text.isLetter c || c = '_' then none
    else if ((cs[0]?).bind (Kind.pairOperator? c)).isSome || (Kind.operator? c).isSome then none
    else some (0, .character c)

theorem numberValue_eq_error {run : List Char} (h : numberValue run = .error f) :
    ∃ cause, f = .value cause := by
  unfold numberValue at h
  simp only at h
  split at h
  · split at h
    · cases h
    · cases h
      exact ⟨_, rfl⟩
  · split at h
    · cases h
    · next e _ =>
      cases h
      cases e with
      | malformed => exact ⟨_, rfl⟩
      | tooLong digits => exact ⟨_, rfl⟩

/-- The state in which the scanner stops at a flaw, with its fault. -/
theorem error_skip_iff :
    (.error (w.fault (s.skip n).place) (s.skip n) : EStateM.Result Fault Scanner Unit) =
      .error f t ↔
    ∃ m x, some (n, w) = some (m, x) ∧ t = s.skip m ∧ f = x.fault t.place := by
  constructor
  · rintro ⟨⟩
    exact ⟨n, w, rfl, rfl, rfl⟩
  · rintro ⟨m, x, ⟨⟩, rfl, rfl⟩
    rfl

/-- A lexeme is refused exactly as the text says. -/
theorem lexeme_eq_error_iff (hr : s.rest = c :: cs) (hc : isGap c = false) :
    lexeme c s = .error f t ↔ ∃ n w, flaw? s.rest = some (n, w) ∧ t = s.skip n ∧
      f = w.fault t.place := by
  unfold lexeme
  change (if c = '#' then skipComment else _ : Scan Unit) s = _ ↔ _
  rw [hr, flaw?]
  by_cases hcomment : c = '#'
  · subst hcomment
    rw [if_pos rfl, skipComment_eq hr]
    simp
  rw [if_neg hcomment]
  by_cases hline : c = '\n'
  · subst hline
    rw [if_pos rfl, pushOperator_eq]
    simp
  have hstarts : ¬(isGap c || c = '#' || c = '\n') = true := by simp [hc, hcomment, hline]
  rw [if_neg hline, if_neg hstarts]
  split
  · change EStateM.bind (readString c) _ s = _ ↔ _
    have hlength : cs.length + 1 = s.rest.length := by simp [hr]
    simp only [EStateM.bind, readString_eq hr]
    cases stringBody c cs with
    | none =>
      simp only [Option.isNone_none, if_true, hlength]
      exact error_skip_iff (w := .openString)
    | some r => simp [push_skip]
  split
  · change EStateM.bind readNumber _ s = _ ↔ _
    simp only [EStateM.bind, readNumber_eq, hr]
    cases hv : numberValue (numberRun false (c :: cs)) with
    | error e =>
      obtain ⟨cause, rfl⟩ := numberValue_eq_error hv
      exact error_skip_iff (w := .number cause)
    | ok v => simp [push_skip]
  split
  · change push _ _ s.place (s.skip (s.rest.takeWhile Text.isWordChar).length) = _ ↔ _
    rw [push_skip]
    simp
  simp only [List.getElem?_cons_succ]
  cases (cs[0]?).bind (Kind.pairOperator? c) with
  | some kind => simp [pushOperator_eq]
  | none =>
    cases Kind.operator? c with
    | some kind => simp [pushOperator_eq]
    | none => exact error_skip_iff (n := 0) (w := .character c)

theorem not_gap_of_flaw (h : flaw? (c :: cs) = some (n, w)) : isGap c = false := by
  rw [flaw?] at h
  cases hc : isGap c with
  | false => rfl
  | true => simp [hc] at h

end Pieces

section Runs

/-- A run that comes to a flaw stops there, if it has a round for every character. -/
theorem lexemes_of_flaw (h : Comes s u) (hf : flaw? u.rest = some (n, w)) (k : Nat)
    (hk : s.rest.length ≤ k) :
    lexemes k s = .error (w.fault (u.skip n).place) (u.skip n) := by
  induction h generalizing k with
  | refl s =>
    cases hr : s.rest with
    | nil =>
      rw [hr] at hf
      cases hf
    | cons c cs =>
      rw [hr, List.length_cons] at hk
      obtain ⟨m, rfl⟩ : ∃ m, k = m + 1 := ⟨k - 1, by omega⟩
      have hc : isGap c = false := not_gap_of_flaw (hr ▸ hf)
      have hl : lexeme c s = .error (w.fault (s.skip n).place) (s.skip n) :=
        (lexeme_eq_error_iff hr hc).mpr ⟨n, w, hf, rfl, rfl⟩
      rw [lexemes_succ, unblanked_of_not_gap hr hc, hr]
      change EStateM.bind (lexeme c) (fun _ => lexemes m) s = _
      simp only [EStateM.bind, hl]
  | @blank s t c cs hr hc _ ih =>
    rw [hr, List.length_cons] at hk
    obtain ⟨m, rfl⟩ : ∃ m, k = m + 1 := ⟨k - 1, by omega⟩
    rw [lexemes_blank m hr hc]
    exact ih hf (m + 1) (by simp [hr]; omega)
  | @lexeme s s' t c cs hr hc hl hlt _ ih =>
    obtain ⟨m, rfl⟩ : ∃ m, k = m + 1 := ⟨k - 1, by omega⟩
    rw [lexemes_lexeme m hr hc hl]
    exact ih hf m (by omega)

/-- A run that stops has come to a flaw. -/
theorem flaw_of_lexemes (h : lexemes k s = .error f t) :
    ∃ u n w, Comes s u ∧ flaw? u.rest = some (n, w) ∧ t = u.skip n ∧ f = w.fault t.place := by
  induction k generalizing s with
  | zero => cases h
  | succ k ih =>
    obtain ⟨hu, hno⟩ := comes_unblanked s
    rw [lexemes_succ] at h
    cases hr : s.unblanked.rest with
    | nil =>
      rw [hr] at h
      cases h
    | cons c cs =>
      have hc : isGap c = false := hno c (by simp [hr])
      rw [hr] at h
      change EStateM.bind (lexeme c) (fun _ => lexemes k) s.unblanked = _ at h
      rw [EStateM.bind] at h
      cases hl : lexeme c s.unblanked with
      | error e u =>
        rw [hl] at h
        cases h
        obtain ⟨n, w, hflaw, ht, hfault⟩ := (lexeme_eq_error_iff hr hc).mp hl
        exact ⟨s.unblanked, n, w, hu, hflaw, ht, hfault⟩
      | ok v u =>
        rw [hl] at h
        obtain ⟨x, n, w, hcomes, hrest⟩ := ih h
        exact ⟨x, n, w, hu.trans ((comes_of_lexeme hr hc hl).trans hcomes), hrest⟩

/-- Reading comes to the end of the text or to a flaw. -/
theorem comes_end_or_flaw (s : Scanner) :
    (∃ t, Comes s t ∧ t.rest = []) ∨ ∃ t n w, Comes s t ∧ flaw? t.rest = some (n, w) := by
  cases hl : lexemes s.rest.length s with
  | ok v t => exact .inl ⟨t, comes_of_lexemes hl (Nat.le_refl _)⟩
  | error e t =>
    obtain ⟨u, n, w, hcomes, hflaw, -, -⟩ := flaw_of_lexemes hl
    exact .inr ⟨u, n, w, hcomes, hflaw⟩

/-- The tokens read on the way stay what they are, whether the rest of the text can be read or
not. -/
theorem tokens_prefix_of_comes (h : Comes s u) :
    u.tokens.toList <+: (endState tokenize s).tokens.toList := by
  rcases comes_end_or_flaw u with ⟨t, ht, hend⟩ | ⟨t, n, w, ht, hflaw⟩
  · obtain ⟨us, hus, -⟩ := ht.tokens
    rw [endState_of_ok (tokenize_of_ok (lexemes_of_comes (h.trans ht) hend _ (Nat.le_refl _)))]
    exact ⟨us ++ [⟨.eof, .null, t.place⟩], by simp [hus]⟩
  · obtain ⟨us, hus, -⟩ := ht.tokens
    rw [endState_of_error
      (tokenize_of_error (lexemes_of_flaw (h.trans ht) hflaw _ (Nat.le_refl _))), tokens_skip]
    exact ⟨us, hus.symm⟩

/-- A text cannot be read exactly if reading comes to a flaw; this gives the fault. -/
theorem tokensOf_eq_error_iff {source : String} : tokensOf source = .error f ↔
    ∃ u n w, Comes (ofSource source) u ∧ flaw? u.rest = some (n, w) ∧
    f = w.fault (u.skip n).place := by
  rw [tokensOf_eq]
  constructor
  · intro h
    cases hl : lexemes (ofSource source).rest.length (ofSource source) with
    | ok v t =>
      rw [hl] at h
      cases h
    | error e t =>
      rw [hl] at h
      cases h
      obtain ⟨u, n, w, hcomes, hflaw, rfl, rfl⟩ := flaw_of_lexemes hl
      exact ⟨u, n, w, hcomes, hflaw, rfl⟩
  · rintro ⟨u, n, w, hcomes, hflaw, rfl⟩
    rw [lexemes_of_flaw hcomes hflaw _ (Nat.le_refl _)]

/-- A text that cannot be read has the same fault, further down, behind a text that can and a
newline. -/
theorem tokensOf_join_error {a b : String} {us : List Token} {e : Token}
    (ha : tokensOf a = .ok (us ++ [e])) (hb : tokensOf b = .error f) :
    tokensOf (a ++ "\n" ++ b) = .error (f.down e.place.line) := by
  obtain ⟨s, hs, hsend, hus⟩ := tokensOf_eq_ok_iff.mp ha
  obtain ⟨u, n, w, hu, hflaw, rfl⟩ := tokensOf_eq_error_iff.mp hb
  obtain ⟨-, he⟩ := List.append_inj' hus rfl
  obtain rfl : e = ⟨.eof, .null, s.place⟩ := by simpa using he
  obtain ⟨v, hv, hsecond⟩ := comes_second hs hsend b
  obtain ⟨u', hu', hfu⟩ := hsecond.comes hu (cut_of_breaks (by simp [Breaks]) _)
  have hrest : u'.rest = u.rest := by rw [hfu.rest, List.append_nil]
  have hplace : (u'.skip n).place = (u.skip n).place.down s.place.line := by
    rw [place_skip, place_skip, hrest, hfu.place, Position.foldl_after_down]
  refine tokensOf_eq_error_iff.mpr ⟨u', n, w, hv.trans hu', by rw [hrest, hflaw], ?_⟩
  rw [hplace, Flaw.fault_down]

/-- A text `a` that can be read has a mark at its end. Behind `a` and a newline every text is read
as it is on its own: its tokens are found further down by the lines of `a`, and so is its fault if
it cannot be read. -/
theorem tokensOf_lines {a : String} {ts : List Token} (ha : tokensOf a = .ok ts) :
    ∃ us p, ts = us ++ [⟨.eof, .null, p⟩] ∧ p = Position.behind a.toList ∧ ∀ b,
      (∀ vs, tokensOf b = .ok vs →
        tokensOf (a ++ "\n" ++ b) =
          .ok (us ++ ⟨.newline, .text "\n", p⟩ :: vs.map (Token.down p.line))) ∧
      ∀ f, tokensOf b = .error f → tokensOf (a ++ "\n" ++ b) = .error (f.down p.line) := by
  obtain ⟨t, hcomes, hend, rfl⟩ := tokensOf_eq_ok_iff.mp ha
  refine ⟨t.tokens.toList, t.place, rfl, place_of_comes hcomes hend, fun b => ⟨?_, ?_⟩⟩
  · intro vs hb
    exact tokensOf_join ha hb
  · intro f hb
    exact tokensOf_join_error ha hb

theorem tokensOf_lines_halves :
    tokensOf "x <" = .ok [⟨.identifier, .text "x", ⟨1, 1⟩⟩, ⟨.lessThan, .text "<", ⟨1, 3⟩⟩,
      ⟨.eof, .null, ⟨1, 4⟩⟩] ∧
      tokensOf ("x <" ++ "\n" ++ "= 1") = .ok [⟨.identifier, .text "x", ⟨1, 1⟩⟩,
        ⟨.lessThan, .text "<", ⟨1, 3⟩⟩, ⟨.newline, .text "\n", ⟨1, 4⟩⟩,
        ⟨.assign, .text "=", ⟨2, 1⟩⟩, ⟨.number, .int 1, ⟨2, 3⟩⟩, ⟨.eof, .null, ⟨2, 4⟩⟩] ∧
      tokensOf ("x <" ++ "\n" ++ "= 'a") = .error (.lexical ⟨2, 5⟩ .unterminatedString) := by
  have hread : tokensOf "x <" =
      .ok [⟨.identifier, .text "x", ⟨1, 1⟩⟩, ⟨.lessThan, .text "<", ⟨1, 3⟩⟩,
        ⟨.eof, .null, ⟨1, 4⟩⟩] := rfl
  obtain ⟨us, p, hts, -, hb⟩ := tokensOf_lines hread
  obtain ⟨rfl, hp⟩ := List.append_inj' (show [_, _] ++ [_] = us ++ [_] from hts) rfl
  cases hp
  exact ⟨hread, (hb "= 1").1 _ rfl, (hb "= 'a").2 _ rfl⟩

end Runs

end Scanner
end FloScript
