import FloScript.Proofs.PatternTexts

/-! What is read from a text without groups and bounds: characters, places and repeated characters.
Each step of reading reaches no further than it reads, and less far unless it reads a character that
stands for itself or for any other. -/
namespace FloScript.Pattern

/-- A character, a place, or a character that may be left out or repeated without bound. -/
def Flat : Pattern → Prop
  | one set => set.fold = .none
  | anchor _ => True
  | times p least most _ => (∃ set, p = one set) ∧ (most = none ∨ least = 0 ∧ most = some 1)
  | _ => False

/-- How many characters a flat pattern can match, if it is not repeated without bound. -/
def reach : Pattern → Nat
  | one _ => 1
  | times _ _ (some m) _ => m
  | _ => 0

def reaches : List Pattern → Nat
  | [] => 0
  | p :: ps => p.reach + reaches ps

theorem reaches_append (ps qs : List Pattern) : reaches (ps ++ qs) = reaches ps + reaches qs := by
  induction ps with
  | nil => exact (Nat.zero_add _).symm
  | cons p ps ih => rw [List.cons_append, reaches, ih, reaches, Nat.add_assoc]

namespace Reader

variable {α β : Type} {s t : State} {x : Reader α} {f : α → Reader β} {a : α} {b : β} {c d : Char}
  {u v w cs : List Char} {P : α → List Char → Prop} {Q : β → List Char → Prop}
  {inner : Inner} {ps qs : List Piece} {n : Nat}

theorem bind_eq_ok (h : (x >>= f) s = .ok b t) : ∃ a s', x s = .ok a s' ∧ f a s' = .ok b t := by
  change EStateM.bind x f s = .ok b t at h
  unfold EStateM.bind at h
  split at h
  · exact ⟨_, _, ‹_›, h⟩
  · cases h

/-- Whether the bounds of a repetition stand in a text. -/
def hasBounds : List Char → Bool
  | [] => false
  | c :: cs => c = '\x7b' && startsCount cs || hasBounds cs

theorem startsCount_of_hasBounds (h : hasBounds ('\x7b' :: cs) = false) :
    startsCount cs = false := by
  simpa [hasBounds] using (Bool.or_eq_false_iff.mp h).1

theorem hasBounds_suffix (u : List Char) (h : hasBounds (u ++ v) = false) :
    hasBounds v = false := by
  induction u with
  | nil => exact h
  | cons c u ih => exact ih (Bool.or_eq_false_iff.mp h).2

/-- Neither groups nor bounds stand in the text that is left, and no group has been read. -/
structure Bare (s : State) : Prop where
  widths : s.widths = []
  groupless : '(' ∉ s.rest
  boundless : hasBounds s.rest = false
  uncut : Uncut s.rest

theorem Bare.suffix (hs : Bare s) (hrest : s.rest = w ++ t.rest) (hwidths : t.widths = []) :
    Bare t where
  widths := hwidths
  groupless h := hs.groupless (by simp [hrest, h])
  boundless := hasBounds_suffix w (hrest ▸ hs.boundless)
  uncut := by
    have hdrop := hs.uncut.drop w.length
    rwa [hrest, List.drop_left] at hdrop

/-- If the reader succeeds at a state, it has read a text which is related to its result. -/
def EatsAt (s : State) (x : Reader α) (P : α → List Char → Prop) : Prop :=
  ∀ a t, x s = .ok a t → ∃ w, s.rest = w ++ t.rest ∧ t.widths = [] ∧ P a w

def Eats (x : Reader α) (P : α → List Char → Prop) : Prop := ∀ s, Bare s → EatsAt s x P

theorem EatsAt.bind_ok (hx : x s = .ok a t) (hrest : s.rest = w ++ t.rest)
    (hf : EatsAt t (f a) fun b v => Q b (w ++ v)) : EatsAt s (x >>= f) Q := by
  intro b t' h
  rw [Reader.bind_ok hx] at h
  obtain ⟨v, hrest', hwidths, hv⟩ := hf b t' h
  exact ⟨w ++ v, by rw [hrest, hrest', List.append_assoc], hwidths, hv⟩

theorem Eats.imp {P' : α → List Char → Prop} (h : Eats x P) (hP : ∀ a w, P a w → P' a w) :
    Eats x P' := by
  intro s hs a t hx
  obtain ⟨w, hrest, hwidths, hw⟩ := h s hs a t hx
  exact ⟨w, hrest, hwidths, hP a w hw⟩

theorem Eats.bind (hx : Eats x P) (hf : ∀ a w, P a w → Eats (f a) fun b v => Q b (w ++ v)) :
    Eats (x >>= f) Q := by
  intro s hs b t h
  obtain ⟨a, s', hx', hf'⟩ := bind_eq_ok h
  obtain ⟨w, hrest, hwidths, hw⟩ := hx s hs a s' hx'
  exact EatsAt.bind_ok hx' hrest (hf a w hw s' (hs.suffix hrest hwidths)) b t h

theorem Eats.ite_bind {y : Reader α} {p : Prop} [Decidable p] (hx : Eats x P) (hy : Eats y P)
    (hf : ∀ a w, P a w → Eats (f a) fun b v => Q b (w ++ v)) :
    Eats (if p then x >>= f else y >>= f) Q := by
  split
  · exact hx.bind hf
  · exact hy.bind hf

theorem eats_pure (h : P a []) : Eats (pure a) P := by
  intro s hs b t hx
  cases hx
  exact ⟨[], rfl, hs.widths, h⟩

theorem eats_failAt (p : Problem) (k : Nat) : Eats (failAt p k : Reader α) P := by
  intro s _ a t h
  cases h

theorem eats_fail (p : Problem) (k : Nat) : Eats (fail p k : Reader α) P := by
  intro s _ a t h
  cases h

theorem eats_fail_bind (p : Problem) (k : Nat) : Eats (fail p k >>= f) Q := by
  intro s _ b t h
  cases h

/-- Looking at the state reads nothing. -/
theorem eats_get {f : State → Reader β} (h : ∀ s, Eats (f s) Q) : Eats (get >>= f) Q :=
  fun s hs => h s s hs

theorem eats_tell {f : Nat → Reader β} (h : ∀ k, Eats (f k) Q) : Eats (tell >>= f) Q :=
  fun s hs => h _ s hs

section Characters

/-- A character as it is read: alone or with a backslash before it. -/
def IsRead (u : List Char) : Prop := ∃ c, u = [c] ∧ c ≠ '\\' ∨ u = ['\\', c]

theorem first?_eq_some (hu : Uncut cs) (h : first? cs = some u) : IsRead u ∧ ∃ v, cs = u ++ v := by
  unfold first? at h
  split at h
  · cases h
  · obtain rfl := Option.some.inj h
    exact ⟨⟨_, .inr rfl⟩, _, rfl⟩
  · next c v hslash =>
    obtain rfl := Option.some.inj h
    refine ⟨⟨c, .inl ⟨rfl, ?_⟩⟩, v, rfl⟩
    rintro rfl
    cases v with
    | nil => exact hu rfl
    | cons d v => exact hslash d v rfl rfl

theorem next_eq (hu : Uncut s.rest) :
    next s = .ok (first? s.rest) { s with rest := s.rest.drop ((first? s.rest).getD []).length } :=
  (bind_ok (peek_eq s)).trans (bind_ok (skip_eq hu _))

theorem next_first (hu : Uncut s.rest) (hfirst : first? s.rest = some u) (hrest : s.rest = u ++ v) :
    next s = .ok (some u) { s with rest := v } := by
  rw [next_eq hu, hfirst]
  simp [hrest]

theorem eats_next : Eats next fun r w => w = r.getD [] ∧ ∀ u ∈ r, IsRead u := by
  intro s hs r t h
  rw [next_eq hs.uncut] at h
  obtain ⟨rfl, rfl⟩ : first? s.rest = r ∧ _ = t := by simpa using h
  cases hfirst : first? s.rest with
  | none => exact ⟨[], rfl, hs.widths, rfl, by simp⟩
  | some u =>
    obtain ⟨hread, v, hv⟩ := first?_eq_some hs.uncut hfirst
    refine ⟨u, by simp [hv], hs.widths, rfl, fun u' hu' => ?_⟩
    obtain rfl := Option.some.inj hu'
    exact hread

theorem eats_accept (c : Char) : Eats (accept c) fun r w => w = if r = true then [c] else [] := by
  intro s hs r t h
  obtain ⟨u, _, hpeek, h⟩ := bind_eq_ok h
  rw [peek_eq] at hpeek
  cases hpeek
  split at h
  · next hfirst =>
    obtain ⟨_, _, hnext, h⟩ := bind_eq_ok h
    cases h
    obtain ⟨w, hrest, hwidths, rfl, -⟩ := eats_next s hs _ t hnext
    rw [next_eq hs.uncut] at hnext
    cases hnext
    exact ⟨_, hrest, hwidths, by rw [hfirst]; rfl⟩
  · cases h
    exact ⟨[], rfl, hs.widths, rfl⟩

theorem eats_takeAtMost (p : Char → Bool) (n : Nat) :
    Eats (takeAtMost p n) fun r w => w = r ∧ ∀ c ∈ r, p c = true := by
  intro s hs r t h
  rw [takeAtMost_eq p n hs.uncut] at h
  cases h
  have hle : (s.rest.take n).takeWhile p <+: s.rest :=
    (List.takeWhile_prefix p).trans (List.take_prefix n s.rest)
  exact ⟨_, (List.prefix_iff_eq_append.mp hle).symm, hs.widths, rfl,
    List.all_eq_true.mp List.all_takeWhile⟩

end Characters

/-- The text does not end with a dollar sign. -/
def Closed (w : List Char) : Prop := w.getLast? ≠ some '$'

theorem Closed.append (hv : Closed v) (hw : Closed w) : Closed (v ++ w) := by
  unfold Closed at *
  rw [List.getLast?_append]
  cases hlast : w.getLast? with
  | none => simpa using hv
  | some c => simpa [hlast] using hw

theorem Closed.eq_nil (hw : Closed w) (h : (v ++ w).getLast? = some '$') : w = [] := by
  rw [List.getLast?_append] at h
  cases hlast : w.getLast? with
  | none => exact List.getLast?_eq_none_iff.mp hlast
  | some c =>
    rw [hlast] at h
    exact absurd (hlast.trans h) hw

theorem closed_of_forall (h : ∀ c ∈ w, c ≠ '$') : Closed w :=
  fun hlast => h _ (List.mem_of_getLast? hlast) rfl

theorem closed_of_getLast? (h : w.getLast? = some c) (hc : c ≠ '$') : Closed w := by
  rw [Closed, h]
  simpa using hc

theorem closed_of_class {p : Char → Bool} (h : ∀ c ∈ w, p c = true) (hp : p '$' = false) :
    Closed w := by
  refine closed_of_forall fun c hc => ?_
  rintro rfl
  rw [h _ hc] at hp
  cases hp

section Escapes

theorem Eats.after (h : Eats x fun _ w => w.getLast? = some c) (v : List Char) :
    Eats x fun _ w => (v ++ w).getLast? = some c :=
  h.imp fun _ w hw => by simp [List.getLast?_append, hw]

theorem eats_nameUntil (terminator : Char) (missing : Problem) (n : Nat) (name : List Char) :
    Eats (nameUntil terminator missing n name) fun _ w => w.getLast? = some terminator := by
  induction n generalizing name with
  | zero => exact eats_fail _ _
  | succ n ih =>
    refine eats_next.bind fun r w hw => ?_
    cases r with
    | none =>
      dsimp only
      split
      · exact eats_fail _ _
      · exact eats_fail _ _
    | some u =>
      obtain ⟨rfl, -⟩ := hw
      dsimp only
      split
      · next hend =>
        split
        · exact eats_fail _ _
        · exact eats_pure (by simp [hend])
      · exact (ih _).after w

theorem eats_hexEscape (c : Char) (k : Nat) : Eats (hexEscape c k) fun _ w => Closed w := by
  refine (eats_takeAtMost isHex k).bind ?_
  rintro ds _ ⟨rfl, hds⟩
  dsimp only
  split
  · exact eats_fail _ _
  · split
    · exact eats_fail _ _
    · exact eats_pure (by simpa using closed_of_class hds rfl)

theorem eats_namedEscape : Eats namedEscape fun _ w => Closed w := by
  refine (eats_accept _).bind fun r w hw => ?_
  split
  · exact eats_fail_bind _ _
  · refine eats_get fun _ => ((eats_nameUntil _ _ _ []).after w).bind fun name v hv => ?_
    split
    · exact eats_pure (closed_of_getLast? (by simpa using hv) (by decide))
    · exact eats_fail _ _

theorem eats_commonEscape (c : Char) :
    Eats (commonEscape c) fun n w => Closed w ∧ (c = '$' → n = ('$').toNat ∧ w = []) := by
  unfold commonEscape
  split
  · exact (eats_hexEscape _ _).imp fun _ _ h => ⟨h, by simp⟩
  · exact (eats_hexEscape _ _).imp fun _ _ h => ⟨h, by simp⟩
  · exact (eats_hexEscape _ _).imp fun _ _ h => ⟨h, by simp⟩
  · exact eats_namedEscape.imp fun _ _ h => ⟨h, by simp⟩
  · split
    · exact eats_fail _ _
    · exact eats_pure ⟨by simp [Closed], by rintro rfl; exact ⟨rfl, rfl⟩⟩

theorem eats_setEscape (flags : Flags) (c : Char) : Eats (setEscape flags c) fun _ _ => True := by
  unfold setEscape
  split
  · exact eats_pure trivial
  · exact eats_pure trivial
  · split
    · refine (eats_takeAtMost isOctal 2).bind fun text w _ => ?_
      dsimp only
      split
      · exact eats_fail _ _
      · exact eats_pure trivial
    · split
      · exact eats_fail _ _
      · exact (eats_commonEscape c).bind fun _ _ _ => eats_pure trivial

theorem eats_setItem (flags : Flags) (u : List Char) : Eats (setItem flags u) fun _ _ => True := by
  unfold setItem
  split
  · exact eats_setEscape _ _
  · exact eats_pure trivial
  · exact eats_pure trivial

theorem eats_setItems (flags : Flags) (here n : Nat) (tests : List CharTest) :
    Eats (setItems flags here n tests) fun _ w => w.getLast? = some ']' := by
  induction n generalizing tests with
  | zero => exact eats_failAt _ _
  | succ n ih =>
    refine eats_next.bind fun r w hw => ?_
    cases r with
    | none => exact eats_failAt _ _
    | some this =>
      obtain ⟨rfl, -⟩ := hw
      dsimp only
      split
      · next hend =>
        have hend : w = [']'] := by simpa using (Bool.and_eq_true_iff.mp hend).1
        exact eats_pure (by simp [hend])
      · refine (eats_setItem flags _).bind fun first v _ => (eats_accept '-').bind fun r v' _ => ?_
        split
        · simpa using (ih _).after (w ++ v ++ v')
        · refine eats_next.bind fun r w' hw' => ?_
          cases r with
          | none => exact eats_failAt _ _
          | some that =>
            obtain ⟨rfl, -⟩ := hw'
            dsimp only
            split
            · next hend => exact eats_pure (by simp [hend, List.getLast?_append])
            · refine (eats_setItem flags _).bind fun second v'' _ => ?_
              split
              · split
                · simpa using (ih _).after (w ++ v ++ v' ++ w' ++ v'')
                · exact eats_fail _ _
              · exact eats_fail _ _

theorem eats_charSet :
    Eats (charSet .plain) fun p w => (∃ set, p = one set ∧ set.fold = .none) ∧
      w.getLast? = some ']' := by
  refine eats_tell fun k => (eats_accept _).bind fun r v _ => eats_get fun s => ?_
  refine ((eats_setItems _ _ _ _).after v).bind fun tests w hw => ?_
  exact eats_pure ⟨⟨_, rfl, rfl⟩, by simpa using hw⟩

/-- A piece without groups. -/
inductive Piece.Flat : Piece → Prop where
  | plain {set : CharSet} (h : set.fold = .none) : Flat (.plain (one set))
  | place (a : Anchor) : Flat (.place (anchor a))
  | repeated {p : Pattern} (h : p.Flat) : Flat (.repeated p)

/-- What an escape can be: a character or a place. No escape but that of the dollar sign ends with
one. -/
def Escaped (c : Char) (q : Piece) (w : List Char) : Prop :=
  q.Flat ∧ reaches q.patterns ≤ 1 ∧ Closed w ∧
    (c = '$' → q = .plain (single .plain (.code ('$').toNat)) ∧ w = [])

theorem escaped_single (test : CharTest) (hw : Closed w) (hc : c ≠ '$') :
    Escaped c (.plain (single .plain test)) w :=
  ⟨.plain rfl, Nat.le_refl 1, hw, fun h => absurd h hc⟩

theorem eats_isClosed (n : Nat) : Eats (isClosed n) fun r w => r = false ∧ w = [] := by
  intro s hs r t h
  cases h
  exact ⟨[], rfl, hs.widths, by rw [hs.widths]; rfl, rfl⟩

theorem eats_numberedEscape (hc : c ≠ '$') : Eats (numberedEscape .plain c) (Escaped c) := by
  refine (eats_takeAtMost _ _).bind ?_
  rintro _ more ⟨rfl, hmore⟩
  have hclosed := closed_of_class hmore rfl
  have hoctal : Eats (takeAtMost isOctal 1) fun _ v => Closed (more ++ v) := by
    refine (eats_takeAtMost _ _).imp ?_
    rintro _ last ⟨rfl, hlast⟩
    exact hclosed.append (closed_of_class hlast rfl)
  refine hoctal.ite_bind (eats_pure (by simpa using hclosed)) fun last v hv => ?_
  dsimp only
  split
  · split
    · exact eats_fail _ _
    · exact eats_pure (escaped_single _ (by simpa using hv) hc)
  · refine eats_get fun s => ?_
    split
    · refine (eats_isClosed _).bind ?_
      rintro _ _ ⟨rfl, rfl⟩
      exact eats_fail_bind _ _
    · exact eats_fail _ _

theorem eats_escape (c : Char) : Eats (escape .plain c) (Escaped c) := by
  unfold escape
  split
  · exact eats_pure ⟨.place _, by decide, by simp [Closed], by simp⟩
  · exact eats_pure ⟨.place _, by decide, by simp [Closed], by simp⟩
  · exact eats_pure ⟨.place _, by decide, by simp [Closed], by simp⟩
  · exact eats_pure ⟨.place _, by decide, by simp [Closed], by simp⟩
  · split
    · next hcat =>
      refine eats_pure (escaped_single _ (by simp [Closed]) ?_)
      rintro rfl
      cases hcat
    · next hcontrol =>
      refine eats_pure (escaped_single _ (by simp [Closed]) ?_)
      rintro rfl
      cases hcontrol
    · split
      · next hzero =>
        refine (eats_takeAtMost _ _).bind ?_
        rintro ds _ ⟨rfl, hds⟩
        refine eats_pure
          (escaped_single _ (by simpa using closed_of_class hds rfl) (by simp [hzero]))
      · split
        · next hdigit =>
          refine eats_numberedEscape ?_
          rintro rfl
          cases hdigit
        · refine (eats_commonEscape _).bind fun n w hw =>
            eats_pure ⟨.plain rfl, Nat.le_refl 1, by simpa using hw.1, ?_⟩
          intro hdollar
          obtain ⟨rfl, rfl⟩ := hw.2 hdollar
          exact ⟨rfl, rfl⟩

end Escapes

section Steps

theorem eats_greed : Eats greed fun _ w => Closed w := by
  refine (eats_accept _).bind ?_
  rintro r _ rfl
  split
  · exact eats_pure (by simp [Closed, *])
  · refine (eats_accept _).bind ?_
    rintro r' _ rfl
    split
    · exact eats_pure (by simp [Closed, *])
    · exact eats_pure (by simp [Closed, *])

theorem reaches_joined_cons (q : Piece) (ps : List Piece) :
    reaches (joined (q :: ps)) = reaches (joined ps) + reaches q.patterns := by
  rw [Part.joined_cons, reaches_append]

/-- Repeating a piece does not reach further. -/
theorem eats_repeatLast (here : Nat) {least : Nat} {most : Option Nat}
    (hmost : most = none ∨ least = 0 ∧ most = some 1) (hps : ∀ q ∈ ps, q.Flat) :
    Eats (repeatLast here least most ps) fun qs w =>
      (∀ q ∈ qs, q.Flat) ∧ reaches (joined qs) ≤ reaches (joined ps) ∧ Closed w := by
  unfold repeatLast
  split
  · exact eats_failAt _ _
  · exact eats_failAt _ _
  · exact eats_failAt _ _
  · next p ps =>
    obtain ⟨hp, hflat⟩ := List.forall_mem_cons.mp hps
    cases hp with
    | @plain set =>
      refine eats_greed.bind fun greed w hw => eats_pure ⟨?_, ?_, by simpa using hw⟩
      · exact List.forall_mem_cons.mpr ⟨.repeated ⟨⟨set, rfl⟩, hmost⟩, hflat⟩
      · rw [reaches_joined_cons, reaches_joined_cons]
        refine Nat.add_le_add_left ?_ _
        rcases hmost with rfl | ⟨-, rfl⟩
        · exact Nat.zero_le 1
        · exact Nat.le_refl 1
  · next qs ps =>
    cases List.forall_mem_cons.mp hps |>.1

/-- A step of reading. A character that stands for itself or for any other is a piece of its own;
every other step reaches less far than it reads, and only the dollar sign and its escape end with a
dollar sign. -/
inductive Step (ps : List Piece) : List Char → List Piece → Prop where
  | char {c : Char} {set : CharSet} (hc : c ∉ special ∨ c = '.') :
      Step ps [c] (.plain (one set) :: ps)
  | sign {w : List Char} {qs : List Piece} (hne : w ≠ [])
    (hreach : reaches (joined qs) < reaches (joined ps) + w.length)
    (hend : w.getLast? = some '$' →
      w = ['$'] ∨ w = ['\\', '$'] ∧ qs = .plain (single .plain (.code ('$').toNat)) :: ps) :
      Step ps w qs

theorem step_closed (hreach : reaches (joined qs) ≤ reaches (joined ps))
    (hc : c ≠ '$') (hw : Closed w) :
    Step ps ([c] ++ w) qs := by
  refine .sign (by simp) (Nat.lt_of_le_of_lt hreach (Nat.lt_add_of_pos_right (by simp)))
    fun hlast => ?_
  obtain rfl := hw.eq_nil hlast
  exact absurd (by simpa using hlast) hc

theorem step_escaped {q : Piece} (h : Escaped c q w) : Step ps (['\\', c] ++ w) (q :: ps) := by
  obtain ⟨-, hreach, hclosed, hdollar⟩ := h
  refine .sign (by simp) ?_ fun hlast => .inr ?_
  · rw [reaches_joined_cons]
    exact Nat.add_lt_add_left (Nat.lt_of_le_of_lt hreach (by simp)) _
  · obtain rfl := hclosed.eq_nil hlast
    obtain rfl : c = '$' := by simpa using hlast
    obtain ⟨rfl, -⟩ := hdollar rfl
    exact ⟨rfl, rfl⟩

theorem step_set {set : CharSet} (hw : w.getLast? = some ']') :
    Step ps (['['] ++ w) (.plain (one set) :: ps) := by
  have hne : w ≠ [] := by
    rintro rfl
    cases hw
  refine .sign (by simp) ?_ fun hlast =>
    absurd ((closed_of_getLast? hw (by decide)).eq_nil hlast) hne
  rw [reaches_joined_cons, List.length_append]
  exact Nat.add_lt_add_left (Nat.lt_add_of_pos_right (n := 1) (List.length_pos_iff.mpr hne)) _

theorem reaches_place (a : Anchor) :
    reaches (joined (.place (anchor a) :: ps)) = reaches (joined ps) :=
  reaches_joined_cons _ _

/-- What a character or an escape adds to the pieces before it; braces, parentheses and bars are
read elsewhere. -/
theorem eats_piece (hu : IsRead u) (hps : ∀ q ∈ ps, q.Flat)
    (hother : ∀ c ∈ ['\x7b', '(', ')', '|'], u ≠ [c]) :
    Eats (piece inner .plain ps u) fun qs w => (∀ q ∈ qs, q.Flat) ∧ Step ps (u ++ w) qs := by
  unfold piece
  refine eats_tell fun k => ?_
  have hrepeat : ∀ {least most}, ∀ c ≠ '$', most = none ∨ least = 0 ∧ most = some 1 →
      Eats (repeatLast (k - 1) least most ps) fun qs w =>
        (∀ q ∈ qs, q.Flat) ∧ Step ps ([c] ++ w) qs :=
    fun c hc hmost =>
      (eats_repeatLast _ hmost hps).imp fun _ _ h => ⟨h.1, step_closed h.2.1 hc h.2.2⟩
  obtain ⟨c, ⟨rfl, hslash⟩ | rfl⟩ := hu
  · dsimp only
    split
    · refine eats_charSet.bind ?_
      rintro _ w ⟨⟨set, rfl, hset⟩, hw⟩
      refine eats_pure ⟨List.forall_mem_cons.mpr ⟨.plain hset, hps⟩, ?_⟩
      rw [List.append_nil]
      exact step_set hw
    · exact hrepeat '?' (by decide) (.inr ⟨rfl, rfl⟩)
    · exact hrepeat '*' (by decide) (.inl rfl)
    · exact hrepeat '+' (by decide) (.inl rfl)
    · exact absurd rfl (hother '\x7b' (by simp))
    · exact eats_pure ⟨List.forall_mem_cons.mpr ⟨.plain rfl, hps⟩, .char (.inr rfl)⟩
    · refine eats_pure ⟨List.forall_mem_cons.mpr ⟨.place _, hps⟩, ?_⟩
      exact step_closed (Nat.le_of_eq (reaches_place _)) (by decide) (by simp [Closed])
    · refine eats_pure ⟨List.forall_mem_cons.mpr ⟨.place _, hps⟩,
        .sign (by simp) ?_ fun _ => .inl rfl⟩
      exact Nat.lt_succ_of_le (Nat.le_of_eq (reaches_place _))
    · exact absurd rfl (hother '(' (by simp))
    · next hset hmay hmany hsome hbrace hany hstart hstop hopen =>
      refine eats_pure ⟨List.forall_mem_cons.mpr ⟨.plain rfl, hps⟩, .char (.inl ?_)⟩
      have hclose : c ≠ ')' := by simpa using hother ')' (by simp)
      have hbar : c ≠ '|' := by simpa using hother '|' (by simp)
      simpa [special] using ⟨hslash, hany, hstart, hstop, hmany, hsome, hmay,
        hset, hopen, hclose, hbar⟩
  · refine (eats_escape _).bind fun q w hq => eats_pure ⟨List.forall_mem_cons.mpr ⟨hq.1, hps⟩, ?_⟩
    simpa using step_escaped hq

/-- Reading on, step by step. -/
inductive Steps (ps : List Piece) : List Char → List Piece → Prop where
  | nil : Steps ps [] ps
  | snoc {v w : List Char} {qs rs : List Piece} (h : Steps ps v qs) (hw : Step qs w rs) :
      Steps ps (v ++ w) rs

theorem Step.steps {rs : List Piece} (h : Step ps v qs) (hw : Steps qs w rs) :
    Steps ps (v ++ w) rs := by
  induction hw with
  | nil =>
    rw [List.append_nil]
    exact .snoc .nil h
  | snoc _ hw ih =>
    rw [← List.append_assoc]
    exact .snoc ih hw

/-- The patterns that are read from a text, after some pieces. -/
def ReadFrom (ps : List Piece) (w : List Char) (r : List Pattern) : Prop :=
  ∃ qs, Steps ps w qs ∧ (∀ q ∈ qs, q.Flat) ∧ r = joined qs

theorem Step.readFrom {r : List Pattern} (h : Step ps v qs) (hr : ReadFrom qs w r) :
    ReadFrom ps (v ++ w) r := by
  obtain ⟨rs, hsteps, hflat, rfl⟩ := hr
  exact ⟨rs, h.steps hsteps, hflat, rfl⟩

theorem eats_sequence (n : Nat) (hps : ∀ q ∈ ps, q.Flat) :
    Eats (sequence inner .plain n ps) fun r w => ReadFrom ps w r := by
  induction n generalizing ps with
  | zero => exact eats_pure ⟨ps, .nil, hps, rfl⟩
  | succ n ih =>
    intro s hs
    rw [sequence]
    refine EatsAt.bind_ok (w := []) (peek_eq s) rfl ?_
    split
    · exact eats_pure ⟨ps, .nil, hps, rfl⟩ s hs
    · exact eats_pure ⟨ps, .nil, hps, rfl⟩ s hs
    · exact eats_pure ⟨ps, .nil, hps, rfl⟩ s hs
    · next u hbar hclose hfirst =>
      obtain ⟨hu, v, hv⟩ := first?_eq_some hs.uncut hfirst
      have hs' : Bare { s with rest := v } := hs.suffix (w := u) hv hs.widths
      refine EatsAt.bind_ok (w := u) (next_first hs.uncut hfirst hv) hv ?_
      change EatsAt _ (piece inner .plain ps u >>= fun qs => sequence inner .plain n qs) _
      by_cases hbrace : u = ['\x7b']
      · subst hbrace
        have hcount : startsCount v = false :=
          startsCount_of_hasBounds (by rw [← hs.boundless, hv]; rfl)
        have hstep : Step ps ['\x7b'] (.plain (single .plain (.code ('\x7b').toNat)) :: ps) :=
          .char (.inl (by decide))
        refine EatsAt.bind_ok (w := []) (piece_brace hcount hs'.uncut) rfl ?_
        exact (ih (List.forall_mem_cons.mpr ⟨.plain rfl, hps⟩)).imp
          (fun r w hr => hstep.readFrom hr) _ hs'
      · have hopen : u ≠ ['('] := by
          rintro rfl
          exact hs.groupless (by simp [hv])
        have hother : ∀ c ∈ ['\x7b', '(', ')', '|'], u ≠ [c] := by
          simpa using ⟨hbrace, hopen, hclose, hbar⟩
        refine (eats_piece hu hps hother).bind
          (fun qs w hqs => (ih hqs.1).imp fun r w' hr => ?_) _ hs'
        simpa using hqs.2.readFrom hr

theorem eats_branches (n : Nat) :
    Eats (branches inner .plain n) fun items w => ∀ item ∈ items, ∃ v, v <:+: w ∧
      ReadFrom [] v item := by
  induction n with
  | zero => exact eats_pure (by simp)
  | succ n ih =>
    refine eats_get fun s => (eats_sequence _ (by simp)).bind fun item w hitem =>
      (eats_accept '|').bind fun r v _ => ?_
    split
    · refine ih.bind fun items w' hitems =>
        eats_pure (List.forall_mem_cons.mpr ⟨⟨w, ?_, hitem⟩, fun item' h => ?_⟩)
      · exact (List.prefix_append _ _).isInfix
      · obtain ⟨x, hx, hread⟩ := hitems item' h
        refine ⟨x, hx.trans ?_, hread⟩
        rw [List.append_nil, ← List.append_assoc]
        exact (List.suffix_append _ _).isInfix
    · exact eats_pure (by simpa using ⟨w, (List.prefix_append _ _).isInfix, hitem⟩)

/-- A sequence of steps reaches no further than it reads, and less far if a character has a meaning
of its own. -/
theorem Steps.reaches_le (h : Steps ps w qs) :
    reaches (joined qs) ≤ reaches (joined ps) + w.length ∧
    (reaches (joined qs) = reaches (joined ps) + w.length → ∀ c ∈ w, c ∉ special ∨ c = '.') := by
  induction h with
  | nil => simp
  | @snoc v w qs rs _ hw ih =>
    obtain ⟨hle, hplain⟩ := ih
    rw [List.length_append]
    cases hw with
    | @char c set hc =>
      rw [reaches_joined_cons]
      change reaches (joined qs) + 1 ≤ _ + (_ + 1) ∧ (reaches (joined qs) + 1 = _ + (_ + 1) → _)
      refine ⟨by omega, fun heq d hd => ?_⟩
      rcases List.mem_append.mp hd with hd | hd
      · exact hplain (by omega) d hd
      · obtain rfl := List.mem_singleton.mp hd
        exact hc
    | sign _ hreach => exact ⟨by omega, fun heq => by omega⟩

/-- The dollar sign at the end of a text is read alone or with a backslash before it. -/
theorem Steps.dollar (h : Steps ps (w ++ ['$']) qs) :
    (∃ rs, Steps ps w rs ∧ reaches (joined qs) ≤ reaches (joined rs)) ∨
      ∃ v rs, w = v ++ ['\\'] ∧ Steps ps v rs ∧
        qs = .plain (single .plain (.code ('$').toNat)) :: rs := by
  generalize htext : w ++ ['$'] = text at h
  cases h with
  | nil => simp at htext
  | @snoc v w' rs _ hsteps hstep =>
    cases hstep with
    | @char c set hc =>
      obtain ⟨rfl, hdollar⟩ := List.append_inj' htext rfl
      obtain rfl := (List.cons.inj hdollar).1
      exact absurd hc (by decide)
    | sign hne hreach hend =>
      have hlast : w'.getLast? = some '$' := by
        have hlast := congrArg List.getLast? htext
        rw [List.getLast?_concat, List.getLast?_append, List.getLast?_eq_some_getLast hne] at hlast
        rw [List.getLast?_eq_some_getLast hne]
        exact hlast.symm
      rcases hend hlast with rfl | ⟨rfl, rfl⟩
      · obtain ⟨rfl, -⟩ := List.append_inj' htext rfl
        exact .inl ⟨rs, hsteps, Nat.le_of_lt_succ hreach⟩
      · refine .inr ⟨v, rs, ?_, hsteps, rfl⟩
        have htext : w ++ ['$'] = (v ++ ['\\']) ++ ['$'] := by simpa using htext
        exact (List.append_inj' htext rfl).1

end Steps

end Reader

end FloScript.Pattern
