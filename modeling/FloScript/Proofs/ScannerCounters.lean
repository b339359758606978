import FloScript.Proofs.EndStates
import FloScript.Proofs.Tiling

/-! The counters of the scanner. Whatever is asked of a scanner, and in whatever order, it goes on
in its text character by character. So it never goes back, and its line and column are those of the
place where it stands, also after a step that ends with a fault on the way. -/
namespace FloScript.Scanner

variable {α β : Type} {s t u : Scanner} {x : Scan α} {f : α → Scan β} {text : List Char}

section Skipping

theorem source_skip (n : Nat) (s : Scanner) : (s.skip n).source = s.source := by
  induction n generalizing s with
  | zero => rfl
  | succ n ih =>
    rw [skip]
    cases s.rest with
    | nil => rfl
    | cons c cs => exact ih _

theorem pos_skip (n : Nat) (s : Scanner) : (s.skip n).pos = s.pos + min n s.rest.length := by
  induction n generalizing s with
  | zero => simp [skip]
  | succ n ih =>
    rw [skip]
    cases h : s.rest with
    | nil => simp
    | cons c cs =>
      simp only [ih, List.length_cons]
      omega

theorem skip_of_rest_nil (h : s.rest = []) (n : Nat) : s.skip n = s := by
  cases n with
  | zero => rfl
  | succ n => simp [skip, h]

/-- Nothing is skipped behind the end of the text. -/
theorem skip_min (n : Nat) (s : Scanner) : s.skip n = s.skip (min n s.rest.length) := by
  rcases Nat.le_total n s.rest.length with h | h
  · rw [Nat.min_eq_left h]
  · obtain ⟨m, rfl⟩ := Nat.exists_eq_add_of_le h
    rw [Nat.min_eq_right h, ← skip_skip, skip_of_rest_nil (by simp)]

end Skipping

/-- The counters are those of the place where the scanner stands in the text. -/
structure Exact (text : List Char) (s : Scanner) : Prop where
  source : s.source = text
  reached : Reached text s.pos s

theorem exact_start (source : String) : Exact source.toList (ofSource source) :=
  ⟨rfl, reached_start source⟩

theorem Exact.skip (h : Exact text s) (n : Nat) : Exact text (s.skip n) where
  source := by rw [source_skip, h.source]
  reached := by
    have hreached := h.reached.skip (Nat.min_le_right n s.rest.length)
    rwa [← skip_min, ← pos_skip] at hreached

/-- `t` stands some characters further on in the text than `s`, or at the same place. Of the tokens
nothing is said. -/
def Further (s t : Scanner) : Prop := ∃ n ts, t = { s.skip n with tokens := ts }

theorem further_skip (n : Nat) (s : Scanner) : Further s (s.skip n) := ⟨n, _, rfl⟩

theorem further_tokens (ts : Array Token) (s : Scanner) : Further s { s with tokens := ts } :=
  ⟨0, ts, rfl⟩

theorem Further.refl (s : Scanner) : Further s s := further_skip 0 s

theorem Further.trans (h : Further s t) (h' : Further t u) : Further s u := by
  obtain ⟨n, ts, rfl⟩ := h
  obtain ⟨m, us, rfl⟩ := h'
  exact ⟨n + m, us, by rw [skip_with_tokens, skip_skip]⟩

theorem Further.pos_le (h : Further s t) : s.pos ≤ t.pos := by
  obtain ⟨n, ts, rfl⟩ := h
  simp [pos_skip]

theorem Exact.further (h : Exact text s) (ht : Further s t) : Exact text t := by
  obtain ⟨n, ts, rfl⟩ := ht
  have hskip := h.skip n
  exact ⟨hskip.source, hskip.reached.le, hskip.reached.rest, hskip.reached.place⟩

section Steps

/-- The step goes on in the text, with a result or without one. -/
def Onward (x : Scan α) : Prop := ∀ s, Further s (endState x s)

theorem onward_bind (hx : Onward x) (hf : ∀ a, Onward (f a)) : Onward (x >>= f) := by
  intro s
  have hs := hx s
  cases h : x s with
  | ok a t =>
    rw [endState_of_ok h] at hs
    rw [endState_bind_of_ok h]
    exact hs.trans (hf a t)
  | error e t =>
    rw [endState_of_error h] at hs
    rwa [endState_bind_of_error h]

theorem onward_pure (a : α) : Onward (pure a : Scan α) := Further.refl

theorem onward_throw (e : Fault) : Onward (throw e : Scan α) := Further.refl

theorem onward_get : Onward (get : Scan Scanner) := Further.refl

theorem onward_reject (cause : SourceFault) : Onward (reject cause : Scan α) :=
  onward_bind onward_get fun _ => onward_throw _

theorem onward_peek (offset : Int) : Onward (peek offset) := by
  refine onward_bind onward_get fun s => ?_
  dsimp only
  split
  · exact onward_pure _
  split
  · exact onward_pure _
  · exact onward_throw _

theorem onward_advance : Onward advance := further_skip 1

theorem onward_takeRun (p : Char → Bool) : Onward (takeRun p) := fun s => further_skip _ s

theorem onward_skipBlanks : Onward skipBlanks := fun s => further_skip _ s

theorem onward_skipComment : Onward skipComment := by
  refine onward_bind onward_get fun s => ?_
  split
  · exact fun t => further_skip _ t
  · exact onward_pure _

/-- A string without an end is read up to the end of the text. -/
theorem onward_readString (quote : Char) : Onward (readString quote) := by
  intro s
  have hget : (get : Scan Scanner) s = .ok s s := rfl
  rw [readString, endState_bind_of_ok hget]
  cases stringBody quote (s.rest.drop 1) with
  | some r => exact further_skip (r.2 + 1) s
  | none => exact further_skip s.rest.length s

/-- A number without a value is passed over all the same. -/
theorem onward_readNumber : Onward readNumber := by
  intro s
  cases h : numberValue (numberRun false s.rest) with
  | ok v =>
    have hread : readNumber s = .ok v (s.skip (numberRun false s.rest).length) := by
      rw [readNumber_eq, h]
    rw [endState_of_ok hread]
    exact further_skip _ s
  | error e =>
    have hread : readNumber s = .error e (s.skip (numberRun false s.rest).length) := by
      rw [readNumber_eq, h]
    rw [endState_of_error hread]
    exact further_skip _ s

theorem onward_readWord : Onward readWord := onward_bind (onward_takeRun _) fun _ => onward_pure _

theorem onward_push (kind : Kind) (value : Literal) (place : Position) :
    Onward (push kind value place) :=
  fun s => further_tokens _ s

theorem onward_pushOperator (kind : Kind) (n : Nat) : Onward (pushOperator kind n) :=
  onward_bind onward_get fun _ => onward_bind (onward_push _ _ _) fun _ s => further_skip n s

theorem onward_lexeme (c : Char) : Onward (lexeme c) := by
  refine onward_bind onward_get fun s => ?_
  split
  · exact onward_skipComment
  split
  · exact onward_pushOperator _ _
  split
  · exact onward_bind (onward_readString c) fun _ => onward_push _ _ _
  split
  · exact onward_bind onward_readNumber fun _ => onward_push _ _ _
  split
  · exact onward_bind onward_readWord fun _ => onward_push _ _ _
  split
  · exact onward_pushOperator _ _
  split
  · exact onward_pushOperator _ _
  · exact onward_reject _

theorem onward_lexemes (n : Nat) : Onward (lexemes n) := by
  induction n with
  | zero => exact onward_pure ()
  | succ n ih =>
    refine onward_bind onward_skipBlanks fun _ => onward_bind onward_get fun s => ?_
    cases s.rest with
    | nil => exact onward_pure ()
    | cons c cs => exact onward_bind (onward_lexeme c) fun _ => ih

theorem onward_tokenize : Onward tokenize := by
  refine onward_bind onward_get fun s => onward_bind (onward_lexemes _) fun _ => ?_
  refine onward_bind onward_get fun t => onward_bind (onward_push _ _ _) fun _ => ?_
  exact onward_bind onward_get fun u => onward_pure _

end Steps

/-- What can be asked of a scanner. -/
inductive Request where
  | peek (offset : Int)
  | advance
  | skipBlanks
  | skipComment
  | readString (quote : Char)
  | readNumber
  | readWord
  | tokenize
  | reject (cause : SourceFault)

/-- The state after a request, whether it was answered or ended with a fault. -/
def answered (s : Scanner) : Request → Scanner
  | .peek offset => endState (peek offset) s
  | .advance => endState advance s
  | .skipBlanks => endState skipBlanks s
  | .skipComment => endState skipComment s
  | .readString quote => endState (readString quote) s
  | .readNumber => endState readNumber s
  | .readWord => endState readWord s
  | .tokenize => endState tokenize s
  | .reject cause => endState (reject cause : Scan Unit) s

/-- The states after each of some requests. -/
def states (s : Scanner) : List Request → List Scanner
  | [] => []
  | r :: rs => s.answered r :: (s.answered r).states rs

theorem further_answered (s : Scanner) (r : Request) : Further s (s.answered r) := by
  cases r with
  | peek offset => exact onward_peek offset s
  | advance => exact onward_advance s
  | skipBlanks => exact onward_skipBlanks s
  | skipComment => exact onward_skipComment s
  | readString quote => exact onward_readString quote s
  | readNumber => exact onward_readNumber s
  | readWord => exact onward_readWord s
  | tokenize => exact onward_tokenize s
  | reject cause => exact onward_reject (α := Unit) cause s

theorem Exact.pos_advance (h : Exact text s) :
    (s.answered .advance).pos = min (s.pos + 1) text.length := by
  have hlen := congrArg List.length h.reached.rest
  have hle := h.reached.le
  rw [List.length_drop] at hlen
  change (s.skip 1).pos = _
  rw [pos_skip]
  omega

theorem pairwise_states (s : Scanner) (rs : List Request) :
    (s :: s.states rs).Pairwise Further := by
  induction rs generalizing s with
  | nil => exact List.pairwise_singleton _ _
  | cons r rs ih =>
    have hlater := ih (s.answered r)
    refine List.pairwise_cons.mpr ⟨fun t ht => ?_, hlater⟩
    rcases List.mem_cons.mp ht with rfl | ht
    · exact further_answered s r
    · exact (further_answered s r).trans ((List.pairwise_cons.mp hlater).1 t ht)

/-- Whatever is asked of a scanner, after each request it stands inside the text or at its end, and
nowhere before the places where it stood; its line is one more than there are newlines before it,
and its column one more than there are characters after the last of them. One character is passed by
advancing, if there is one. -/
theorem counters_exact (source : String) (rs : List Request) :
    (ofSource source :: (ofSource source).states rs).Pairwise (fun s t => s.pos ≤ t.pos) ∧
    ∀ s ∈ ofSource source :: (ofSource source).states rs,
      s.source = source.toList ∧ s.rest = source.toList.drop s.pos ∧ s.pos ≤ source.toList.length ∧
      s.place.line = 1 + (source.toList.take s.pos).count '\n' ∧
      s.place.column = 1 + ((source.toList.take s.pos).reverse.takeWhile (· ≠ '\n')).length ∧
      (s.answered .advance).pos = min (s.pos + 1) source.toList.length := by
  have hstates := pairwise_states (ofSource source) rs
  constructor
  · exact hstates.imp Further.pos_le
  · intro s hs
    have hexact : Exact source.toList s := by
      rcases List.mem_cons.mp hs with rfl | hs
      · exact exact_start source
      · exact (exact_start source).further ((List.pairwise_cons.mp hstates).1 s hs)
    refine ⟨hexact.source, hexact.reached.rest, hexact.reached.le, ?_, ?_, hexact.pos_advance⟩
    · rw [hexact.reached.place, Nat.add_comm]
      rfl
    · rw [hexact.reached.place, Nat.add_comm]
      rfl

/-- A string that is not closed is read to the end of the text, on the second line of which the
scanner stands then. -/
theorem counters_exact_unclosed :
    (ofSource "x\n'y").answered .tokenize ∈
      ofSource "x\n'y" :: (ofSource "x\n'y").states [.tokenize, .readNumber] ∧
    ((ofSource "x\n'y").answered .tokenize).pos = 4 ∧
    ((ofSource "x\n'y").answered .tokenize).place.line = 1 + ['x', '\n', '\'', 'y'].count '\n' ∧
    ((ofSource "x\n'y").answered .tokenize).place.column =
      1 + (['x', '\n', '\'', 'y'].reverse.takeWhile (· ≠ '\n')).length := by
  have hmem : (ofSource "x\n'y").answered .tokenize ∈
      ofSource "x\n'y" :: (ofSource "x\n'y").states [.tokenize, .readNumber] := by simp [states]
  have hpos : ((ofSource "x\n'y").answered .tokenize).pos = 4 := by decide +kernel
  obtain ⟨-, -, -, hline, hcolumn, -⟩ := (counters_exact "x\n'y" [.tokenize, .readNumber]).2 _ hmem
  rw [hpos] at hline hcolumn
  exact ⟨hmem, hpos, hline, hcolumn⟩

end FloScript.Scanner
