import FloScript.Pattern.Reader

/-! What a pattern matches, as a relation between the text before a place, the text matched there
and the text after it. Matching finds a way through the text exactly if there is one. -/
namespace FloScript.Pattern

variable {p q : Pattern} {k : Continuation} {s t : Place} {set : CharSet} {least count n : Nat}
  {most last : Option Nat} {u v rest before : List Char} {caps : List (Nat × List Char)}

/-- Characters of a set repeated after `count` others: enough of them, not too many, and all that
there are if none may be given back. -/
structure Rounds (set : CharSet) (least : Nat) (most : Option Nat) (greed : Greed)
    (count : Nat) (u rest : List Char) :
    Prop where
  contains : ∀ c ∈ u, set.contains c = true
  enough : least ≤ count + u.length
  bounded : ∀ m ∈ most, count + u.length ≤ m
  full : greed = .possessive → most = some (count + u.length) ∨
    ∀ c ∈ rest.head?, set.contains c = false

/-- `Spans p before u rest caps`: between the texts `before` and `rest` the pattern matches `u` and
records `caps`, the last group first. The text before is written backwards. -/
def Spans : Pattern → List Char → List Char → List Char → List (Nat × List Char) → Prop
  | empty, _, u, _, caps => u = [] ∧ caps = []
  | one set, _, u, _, caps => (∃ c, u = [c] ∧ set.contains c = true) ∧ caps = []
  | anchor a, before, u, rest, caps =>
    u = [] ∧ Place.satisfies ⟨before, rest, []⟩ a = true ∧ caps = []
  | cat p q, before, u, rest, caps => ∃ v w vs ws, u = v ++ w ∧ caps = ws ++ vs ∧
      Spans p before v (w ++ rest) vs ∧ Spans q (v.reverse ++ before) w rest ws
  | alt p q, before, u, rest, caps => Spans p before u rest caps ∨ Spans q before u rest caps
  | group n p, before, u, rest, caps =>
    ∃ inner, caps = (n, u) :: inner ∧ Spans p before u rest inner
  | times p least most greed, _, u, rest, caps =>
      ∃ set, p = one set ∧ Rounds set least most greed 0 u rest ∧ caps = []
  | _, _, _, _, _ => False

/-- A pattern in which only characters are repeated, and that looks at nothing but the characters it
matches and the places between them. -/
def Simple : Pattern → Prop
  | empty | one _ | anchor _ => True
  | cat p q | alt p q => Simple p ∧ Simple q
  | group _ p => Simple p
  | times p least most _ => (∃ set, p = one set) ∧ ∀ m ∈ most, least ≤ m
  | _ => False

/-- The place behind a text that stands at a place, with more groups. -/
def Place.after (s : Place) (u rest : List Char) (caps : List (Nat × List Char)) : Place :=
  ⟨u.reverse ++ s.before, rest, caps ++ s.groups⟩

theorem Place.after_after (s : Place) (u v rest' rest : List Char)
    (vs ws : List (Nat × List Char)) :
    (s.after u rest' vs).after v rest ws = s.after (u ++ v) rest (ws ++ vs) := by
  simp [Place.after]

theorem Place.satisfies_groups (s : Place) (a : Anchor) :
    Place.satisfies ⟨s.before, s.rest, []⟩ a = s.satisfies a := by
  cases a <;> rfl

theorem Place.capture_after (h : s.rest = u ++ rest) :
    Place.capture n s (s.after u rest caps) = s.after u rest ((n, u) :: caps) := by
  simp [Place.capture, Place.after, h]

theorem run_one_cons {c : Char} {cs : List Char} (h : s.rest = c :: cs) :
    run (one set) k s = if set.contains c = true then k (s.after [c] cs []) else none := by
  obtain ⟨before, rest, groups⟩ := s
  obtain rfl := h
  rfl

theorem run_one_nil (h : s.rest = []) : run (one set) k s = none := by
  obtain ⟨before, rest, groups⟩ := s
  obtain rfl := h
  rfl

theorem run_one_eq_some : run (one set) k s = some t ↔
    ∃ c cs, s.rest = c :: cs ∧ set.contains c = true ∧ k (s.after [c] cs []) = some t := by
  constructor
  · intro h
    cases hrest : s.rest with
    | nil =>
      rw [run_one_nil hrest] at h
      cases h
    | cons c cs =>
      rw [run_one_cons hrest] at h
      split at h
      · exact ⟨c, cs, rfl, ‹_›, h⟩
      · cases h
  · rintro ⟨c, cs, hrest, hc, hk⟩
    rwa [run_one_cons hrest, if_pos hc]

/-- No character of the set stands at the place. -/
theorem run_anchor (a : Anchor) : run (anchor a) k s = if s.satisfies a = true then k s else none :=
  rfl

theorem run_alt : run (alt p q) k s = (run p k s).or (run q k s) :=
  Option.orElse_eq_or

section Repetition

theorem Rounds.nil {greed : Greed} (henough : least ≤ count) (hbounded : ∀ m ∈ most, count ≤ m)
    (hfull : greed = .possessive → most = some count ∨ ∀ c ∈ rest.head?, set.contains c = false) :
    Rounds set least most greed count [] rest :=
  ⟨by simp, henough, hbounded, hfull⟩

/-- Only a repetition that gives nothing back looks at what follows. -/
theorem Rounds.of_ne {greed greed' : Greed} (h : Rounds set least most greed count u rest)
    (hg : greed' ≠ .possessive) :
    Rounds set least most greed' count u rest :=
  ⟨h.contains, h.enough, h.bounded, fun hp => absurd hp hg⟩

theorem Rounds.cons_iff {greed : Greed} {c : Char} :
    Rounds set least most greed count (c :: u) rest ↔
    set.contains c = true ∧ Rounds set least most greed (count + 1) u rest := by
  have hcount : count + (c :: u).length = count + 1 + u.length := by
    rw [List.length_cons]
    omega
  constructor
  · rintro ⟨hcontains, henough, hbounded, hfull⟩
    rw [hcount] at henough hbounded hfull
    exact ⟨hcontains c (by simp), fun d hd => hcontains d (by simp [hd]), henough, hbounded, hfull⟩
  · rintro ⟨hc, hcontains, henough, hbounded, hfull⟩
    rw [← hcount] at henough hbounded hfull
    exact ⟨by simpa using ⟨hc, hcontains⟩, henough, hbounded, hfull⟩

/-- What a round can do, whether more rounds are tried first or fewer. -/
structure Repeats (set : CharSet) (least : Nat) (most : Option Nat) (k : Continuation)
    (rounds : Nat → Nat → Option Nat → Continuation) : Prop where
  cases : ∀ {n count last s t}, rounds (n + 1) count last s = some t →
    (∃ last', (count < least ∨ mayRepeat most count = true) ∧
      run (one set) (rounds n (count + 1) last') s = some t) ∨
      least ≤ count ∧ k s = some t
  more : ∀ {n count last s}, count < least ∨ mayRepeat most count = true →
    last ≠ some s.rest.length →
    ∃ last', (last' = last ∨ last' = some s.rest.length) ∧
      ((run (one set) (rounds n (count + 1) last') s).isSome = true →
        (rounds (n + 1) count last s).isSome = true)
  done : ∀ {n count last s}, least ≤ count → (k s).isSome = true →
    (rounds (n + 1) count last s).isSome = true

theorem repeats_greedyRounds :
    Repeats set least most k (greedyRounds (run (one set)) least most k) where
  cases := by
    intro n count last s t h
    by_cases hcount : count < least
    · simp only [greedyRounds, if_pos hcount] at h
      exact .inl ⟨last, .inl hcount, h⟩
    · simp only [greedyRounds, if_neg hcount] at h
      split at h
      · next hmay =>
        rw [Option.orElse_eq_orElse, Option.orElse_eq_or, Option.or_eq_some_iff] at h
        rcases h with h | h
        · exact .inl ⟨_, .inr (Bool.and_eq_true_iff.mp hmay).1, h⟩
        · exact .inr ⟨Nat.le_of_not_lt hcount, h.2⟩
      · exact .inr ⟨Nat.le_of_not_lt hcount, h⟩
  more := by
    intro n count last s hmay hlast
    rw [greedyRounds]
    by_cases hcount : count < least
    · exact ⟨last, .inl rfl, by simp [hcount]⟩
    · have hmay : mayRepeat most count = true := hmay.resolve_left hcount
      refine ⟨some s.rest.length, .inr rfl, fun h => ?_⟩
      simp [hcount, hmay, hlast, h]
  done := by
    intro n count last s hcount hk
    rw [greedyRounds]
    simp only [if_neg (Nat.not_lt.mpr hcount)]
    split
    · simp [hk]
    · exact hk

theorem repeats_lazyRounds :
    Repeats set least most k (lazyRounds (run (one set)) least most k) where
  cases := by
    intro n count last s t h
    by_cases hcount : count < least
    · simp only [lazyRounds, if_pos hcount] at h
      exact .inl ⟨last, .inl hcount, h⟩
    · simp only [lazyRounds, if_neg hcount] at h
      rw [Option.orElse_eq_orElse, Option.orElse_eq_or, Option.or_eq_some_iff] at h
      rcases h with h | ⟨-, h⟩
      · exact .inr ⟨Nat.le_of_not_lt hcount, h⟩
      · split at h
        · next hmay => exact .inl ⟨_, .inr (Bool.and_eq_true_iff.mp hmay).1, h⟩
        · cases h
  more := by
    intro n count last s hmay hlast
    rw [lazyRounds]
    by_cases hcount : count < least
    · exact ⟨last, .inl rfl, by simp [hcount]⟩
    · have hmay : mayRepeat most count = true := hmay.resolve_left hcount
      refine ⟨some s.rest.length, .inr rfl, fun h => ?_⟩
      simp [hcount, hmay, hlast, h]
  done := by
    intro n count last s hcount hk
    rw [lazyRounds]
    simp [if_neg (Nat.not_lt.mpr hcount), hk]

variable {rounds : Nat → Nat → Option Nat → Continuation}

theorem succ_le_of_mayRepeat (hleast : ∀ m ∈ most, least ≤ m)
    (h : count < least ∨ mayRepeat most count = true) :
    ∀ m ∈ most, count + 1 ≤ m := by
  intro m hm
  rcases h with h | h
  · exact Nat.le_trans h (hleast m hm)
  · obtain rfl := hm
    exact of_decide_eq_true h

/-- A repetition that succeeds has taken some characters before it went on. -/
theorem Repeats.exists_rounds (hr : Repeats set least most k rounds)
    (hleast : ∀ m ∈ most, least ≤ m) (hcount : ∀ m ∈ most, count ≤ m) (hn : s.rest.length < n)
    (h : rounds n count last s = some t) :
    ∃ u rest, s.rest = u ++ rest ∧ Rounds set least most .greedy count u rest ∧
      k (s.after u rest []) = some t := by
  induction n generalizing s count last with
  | zero => omega
  | succ n ih =>
    rcases hr.cases h with ⟨last', hmay, h⟩ | ⟨henough, h⟩
    · obtain ⟨c, cs, hrest, hc, h⟩ := run_one_eq_some.mp h
      have hlength : cs.length < n := by
        rw [hrest] at hn
        simpa using hn
      obtain ⟨u, rest, rfl, hrounds, hk⟩ := ih (succ_le_of_mayRepeat hleast hmay) hlength h
      exact ⟨c :: u, rest, hrest, Rounds.cons_iff.mpr ⟨hc, hrounds⟩,
        by rwa [Place.after_after] at hk⟩
    · exact ⟨[], s.rest, rfl, .nil henough hcount (by simp), h⟩

/-- A repetition succeeds if it can go on after some characters. -/
theorem Repeats.isSome_rounds (hr : Repeats set least most k rounds)
    (hlast : ∀ l ∈ last, s.rest.length < l) (hn : s.rest.length < n) (hrest : s.rest = u ++ rest)
    (hu : Rounds set least most .greedy count u rest) (hk : (k (s.after u rest [])).isSome = true) :
    (rounds n count last s).isSome = true := by
  induction u generalizing s count last n with
  | nil =>
    obtain ⟨n, rfl⟩ := Nat.exists_eq_succ_of_ne_zero (Nat.ne_zero_of_lt hn)
    refine hr.done hu.enough ?_
    rwa [← show s.rest = rest from hrest] at hk
  | cons c u ih =>
    obtain ⟨n, rfl⟩ := Nat.exists_eq_succ_of_ne_zero (Nat.ne_zero_of_lt hn)
    have hlength : s.rest.length = (u ++ rest).length + 1 := by rw [hrest]; rfl
    have hmay : mayRepeat most count = true := by
      cases most with
      | none => rfl
      | some m =>
        have hm := hu.bounded m rfl
        rw [List.length_cons] at hm
        exact decide_eq_true (by omega)
    have hne : last ≠ some s.rest.length := fun h => Nat.lt_irrefl _ (hlast _ h)
    obtain ⟨last', hlast', hmore⟩ := hr.more (.inr hmay) hne
    obtain ⟨hc, hu⟩ := Rounds.cons_iff.mp hu
    refine hmore ?_
    rw [run_one_cons hrest, if_pos hc]
    refine ih (s := s.after [c] (u ++ rest) []) ?_
      (by change (u ++ rest).length < n; omega) rfl hu ?_
    · intro l hl
      change (u ++ rest).length < l
      rcases hlast' with rfl | rfl
      · have := hlast l hl
        omega
      · obtain rfl := Option.mem_some_iff.mp hl
        omega
    · rwa [Place.after_after]

theorem isSome_greedyRounds_some (set : CharSet) (most last : Option Nat) (n : Nat) (s : Place)
    (hcount : least ≤ count) :
    (greedyRounds (run (one set)) least most some n count last s).isSome = true := by
  cases n with
  | zero => rfl
  | succ n => exact repeats_greedyRounds.done hcount rfl

/-- A repetition that gives nothing back takes as much as it can. -/
theorem exists_possessive (hleast : ∀ m ∈ most, least ≤ m) (hcount : ∀ m ∈ most, count ≤ m)
    (hlast : ∀ l ∈ last, s.rest.length < l) (hn : s.rest.length < n)
    (h : greedyRounds (run (one set)) least most some n count last s = some t) :
    ∃ u rest, s.rest = u ++ rest ∧ Rounds set least most .possessive count u rest ∧
      t = s.after u rest [] := by
  induction n generalizing s count last with
  | zero => omega
  | succ n ih =>
    have hround :
        ∀ last', (count < least ∨ mayRepeat most count = true) → (∀ l ∈ last', s.rest.length ≤ l) →
          run (one set) (greedyRounds (run (one set)) least most some n (count + 1) last') s =
            some t →
          ∃ u rest, s.rest = u ++ rest ∧ Rounds set least most .possessive count u rest ∧
            t = s.after u rest [] := by
      intro last' hmay hlast' h
      obtain ⟨c, cs, hrest, hc, h⟩ := run_one_eq_some.mp h
      rw [hrest, List.length_cons] at hn hlast'
      obtain ⟨u, rest, rfl, hu, rfl⟩ :=
        ih (succ_le_of_mayRepeat hleast hmay) hlast' (Nat.lt_of_succ_lt_succ hn) h
      exact ⟨c :: u, rest, hrest, Rounds.cons_iff.mpr ⟨hc, hu⟩, Place.after_after ..⟩
    by_cases henough : count < least
    · simp only [greedyRounds, if_pos henough] at h
      exact hround last (.inl henough) (fun l hl => Nat.le_of_lt (hlast l hl)) h
    · have henough : least ≤ count := Nat.le_of_not_lt henough
      by_cases hmay : mayRepeat most count = true
      · have hnew : (last != some s.rest.length) = true := by
          simpa using fun h => Nat.lt_irrefl _ (hlast _ h)
        simp only [greedyRounds, if_neg (Nat.not_lt.mpr henough), hmay, hnew,
          Bool.and_self, if_true] at h
        rw [Option.orElse_eq_orElse, Option.orElse_eq_or, Option.or_eq_some_iff] at h
        rcases h with h | ⟨hnone, h⟩
        · exact hround _ (.inr hmay) (by simp) h
        · -- A character of the set would have been taken, since what follows it cannot fail.
          refine ⟨[], s.rest, rfl, .nil henough hcount fun _ => .inr fun c hc => ?_,
            (Option.some.inj h).symm⟩
          obtain ⟨cs, hrest⟩ := List.head?_eq_some_iff.mp hc
          rw [run_one_cons hrest] at hnone
          split at hnone
          · have hsome :=
              isSome_greedyRounds_some set most (some s.rest.length) n (s.after [c] cs [])
                (Nat.le_succ_of_le henough)
            rw [hnone] at hsome
            cases hsome
          · next hc => simpa using hc
      · simp only [greedyRounds, if_neg (Nat.not_lt.mpr henough), hmay,
          Bool.false_and, Bool.false_eq_true,
          if_false] at h
        have hmost : most = some count := by
          cases most with
          | none => exact absurd rfl hmay
          | some m =>
            exact congrArg some (Nat.le_antisymm (by simpa [mayRepeat] using hmay) (hcount m rfl))
        exact ⟨[], s.rest, rfl, .nil henough hcount fun _ => .inl hmost, (Option.some.inj h).symm⟩

theorem Rounds.eq_nil {greed : Greed} (h : Rounds set least most .possessive count [] (u ++ rest))
    (hu : Rounds set least most greed count u rest) : u = [] := by
  cases u with
  | nil => rfl
  | cons c u =>
    rcases h.full rfl with hmost | hhead
    · have hlength := hu.bounded _ hmost
      simp only [List.length_cons, List.length_nil] at hlength
      omega
    · have hc := hhead c rfl
      rw [hu.contains c (by simp)] at hc
      cases hc

/-- How much such a repetition takes is determined by the text. -/
theorem Rounds.unique {u' rest' : List Char} (h : Rounds set least most .possessive count u rest)
    (h' : Rounds set least most .possessive count u' rest') (heq : u ++ rest = u' ++ rest') :
    u = u' := by
  induction u generalizing u' count with
  | nil =>
    rw [show rest = u' ++ rest' from heq] at h
    exact (h.eq_nil h').symm
  | cons c u ih =>
    cases u' with
    | nil =>
      rw [← show c :: u ++ rest = rest' from heq] at h'
      exact h'.eq_nil h
    | cons d u' =>
      obtain ⟨rfl, htail⟩ := List.cons.inj heq
      rw [ih (Rounds.cons_iff.mp h).2 (Rounds.cons_iff.mp h').2 htail]

theorem greedyRounds_some (hleast : ∀ m ∈ most, least ≤ m) (hcount : ∀ m ∈ most, count ≤ m)
    (hlast : ∀ l ∈ last, s.rest.length < l) (hn : s.rest.length < n) (hrest : s.rest = u ++ rest)
    (hu : Rounds set least most .possessive count u rest) :
    greedyRounds (run (one set)) least most some n count last s = some (s.after u rest []) := by
  obtain ⟨t, ht⟩ := Option.isSome_iff_exists.mp
    (repeats_greedyRounds.isSome_rounds (k := some) hlast hn hrest (hu.of_ne (by simp)) rfl)
  obtain ⟨u', rest', hrest', hu', rfl⟩ := exists_possessive hleast hcount hlast hn ht
  rw [hrest] at hrest'
  obtain rfl := hu.unique hu' hrest'
  rw [ht, List.append_cancel_left hrest']

end Repetition

section Matching

/-- Where matching goes on, the pattern has matched. -/
theorem exists_of_run (hp : Simple p) (h : run p k s = some t) :
    ∃ u rest caps, s.rest = u ++ rest ∧ Spans p s.before u rest caps ∧
      k (s.after u rest caps) = some t := by
  induction p generalizing k s t with
  | empty => exact ⟨[], s.rest, [], rfl, ⟨rfl, rfl⟩, h⟩
  | one set =>
    obtain ⟨c, cs, hrest, hc, hk⟩ := run_one_eq_some.mp h
    exact ⟨[c], cs, [], hrest, ⟨⟨c, rfl, hc⟩, rfl⟩, hk⟩
  | anchor a =>
    rw [run_anchor] at h
    split at h
    · next ha => exact ⟨[], s.rest, [], rfl, ⟨rfl, (s.satisfies_groups a).trans ha, rfl⟩, h⟩
    · cases h
  | cat p q ihp ihq =>
    obtain ⟨v, rest', vs, hv, hspans, h⟩ := ihp hp.1 h
    obtain ⟨w, rest, ws, hw, hspans', hk⟩ := ihq hp.2 h
    obtain rfl : rest' = w ++ rest := hw
    refine ⟨v ++ w, rest, ws ++ vs,
      by rw [hv, List.append_assoc], ⟨v, w, vs, ws, rfl, rfl, hspans, hspans'⟩, ?_⟩
    rwa [Place.after_after] at hk
  | alt p q ihp ihq =>
    rw [run_alt, Option.or_eq_some_iff] at h
    rcases h with h | ⟨-, h⟩
    · obtain ⟨u, rest, caps, hrest, hspans, hk⟩ := ihp hp.1 h
      exact ⟨u, rest, caps, hrest, .inl hspans, hk⟩
    · obtain ⟨u, rest, caps, hrest, hspans, hk⟩ := ihq hp.2 h
      exact ⟨u, rest, caps, hrest, .inr hspans, hk⟩
  | group n p ih =>
    obtain ⟨u, rest, inner, hrest, hspans, hk⟩ := ih hp h
    refine ⟨u, rest, (n, u) :: inner, hrest, ⟨inner, rfl, hspans⟩, ?_⟩
    rwa [Place.capture_after hrest] at hk
  | times p least most greed =>
    obtain ⟨⟨set, rfl⟩, hleast⟩ := hp
    have hroom : s.rest.length < roundsAt least s := by
      rw [roundsAt]
      omega
    cases greed with
    | greedy =>
      obtain ⟨u, rest, hrest, hu, hk⟩ := repeats_greedyRounds.exists_rounds hleast (by simp) hroom h
      exact ⟨u, rest, [], hrest, ⟨set, rfl, hu, rfl⟩, hk⟩
    | lazy =>
      obtain ⟨u, rest, hrest, hu, hk⟩ := repeats_lazyRounds.exists_rounds hleast (by simp) hroom h
      exact ⟨u, rest, [], hrest, ⟨set, rfl, hu.of_ne (by simp), rfl⟩, hk⟩
    | possessive =>
      obtain ⟨t', h, hk⟩ := Option.bind_eq_some_iff.mp h
      obtain ⟨u, rest, hrest, hu, rfl⟩ := exists_possessive hleast (by simp) (by simp) hroom h
      exact ⟨u, rest, [], hrest, ⟨set, rfl, hu, rfl⟩, hk⟩
  | _ => exact hp.elim

/-- Where the pattern matches and matching can go on, it does. -/
theorem isSome_run (hp : Simple p) (hrest : s.rest = u ++ rest) (hs : Spans p s.before u rest caps)
    (hk : (k (s.after u rest caps)).isSome = true) : (run p k s).isSome = true := by
  induction p generalizing k s u rest caps with
  | empty =>
    obtain ⟨rfl, rfl⟩ := hs
    rwa [← show s.rest = rest from hrest] at hk
  | one set =>
    obtain ⟨⟨c, rfl, hc⟩, rfl⟩ := hs
    rwa [run_one_cons hrest, if_pos hc]
  | anchor a =>
    obtain ⟨rfl, ha, rfl⟩ := hs
    obtain rfl : s.rest = rest := hrest
    rwa [run_anchor, if_pos ((s.satisfies_groups a).symm.trans ha)]
  | cat p q ihp ihq =>
    obtain ⟨v, w, vs, ws, rfl, rfl, hv, hw⟩ := hs
    refine ihp hp.1 (by rw [hrest, List.append_assoc]) hv (ihq hp.2 rfl hw ?_)
    rwa [Place.after_after]
  | alt p q ihp ihq =>
    rw [run_alt, Option.isSome_or, Bool.or_eq_true]
    exact hs.imp (ihp hp.1 hrest · hk) (ihq hp.2 hrest · hk)
  | group n p ih =>
    obtain ⟨inner, rfl, hs⟩ := hs
    refine ih hp hrest hs ?_
    rwa [Place.capture_after hrest]
  | times p least most greed =>
    obtain ⟨set, rfl, hu, rfl⟩ := hs
    have hroom : s.rest.length < roundsAt least s := by
      rw [roundsAt]
      omega
    cases greed with
    | greedy => exact repeats_greedyRounds.isSome_rounds (by simp) hroom hrest hu hk
    | lazy => exact repeats_lazyRounds.isSome_rounds (by simp) hroom hrest (hu.of_ne (by simp)) hk
    | possessive =>
      have hsome : greedyRounds (run (one set)) least most some (roundsAt least s) 0 none s =
          some (s.after u rest []) :=
        greedyRounds_some hp.2 (by simp) (by simp) hroom hrest hu
      change (Option.bind _ k).isSome = true
      rwa [hsome]
  | _ => exact hs.elim

/-- A pattern matches at the beginning of a text exactly if it spans a beginning of the text. -/
theorem isSome_match? (hp : Simple p) {text : String} :
    (p.match? text).isSome = true ↔ ∃ u rest caps, text.toList = u ++ rest ∧
      Spans p [] u rest caps := by
  constructor
  · intro h
    obtain ⟨t, ht⟩ := Option.isSome_iff_exists.mp h
    obtain ⟨u, rest, caps, hrest, hspans, -⟩ := exists_of_run hp ht
    exact ⟨u, rest, caps, hrest, hspans⟩
  · rintro ⟨u, rest, caps, hrest, hspans⟩
    exact isSome_run (s := .ofText text) hp hrest hspans rfl

end Matching

section Sequences

open Reader

variable {ps qs : List Pattern}

theorem simple_inOrder : Simple (inOrder ps) ↔ ∀ p ∈ ps, Simple p := by
  induction ps with
  | nil => exact ⟨by simp, fun _ => trivial⟩
  | cons p ps ih =>
    rw [List.forall_mem_cons, ← ih]
    exact Iff.rfl

theorem spans_cons :
    Spans (inOrder (p :: ps)) before u rest caps ↔
      ∃ v w vs ws, u = v ++ w ∧ caps = ws ++ vs ∧
        Spans p before v (w ++ rest) vs ∧ Spans (inOrder ps) (v.reverse ++ before) w rest ws :=
  Iff.rfl

theorem spans_singleton : Spans (inOrder [p]) before u rest caps ↔ Spans p before u rest caps := by
  rw [spans_cons]
  constructor
  · rintro ⟨v, _, vs, _, rfl, rfl, h, rfl, rfl⟩
    simpa using h
  · exact fun h => ⟨u, [], caps, [], by simp, rfl, h, rfl, rfl⟩

theorem spans_append :
    Spans (inOrder (ps ++ qs)) before u rest caps ↔
      ∃ v w vs ws, u = v ++ w ∧ caps = ws ++ vs ∧
        Spans (inOrder ps) before v (w ++ rest) vs ∧
        Spans (inOrder qs) (v.reverse ++ before) w rest ws := by
  induction ps generalizing before u caps with
  | nil =>
    constructor
    · exact fun h => ⟨[], u, [], caps, rfl, (List.append_nil caps).symm, ⟨rfl, rfl⟩, h⟩
    · rintro ⟨_, w, _, ws, rfl, rfl, ⟨rfl, rfl⟩, h⟩
      simpa using h
  | cons p ps ih =>
    rw [List.cons_append]
    simp only [spans_cons, ih]
    constructor
    · rintro ⟨v, _, vs, _, rfl, rfl, hv, w, x, ws, xs, rfl, rfl, hw, hx⟩
      refine ⟨v ++ w, x, ws ++ vs, xs,
        by simp, by simp, ⟨v, w, vs, ws, rfl, rfl, ?_, hw⟩, by simpa using hx⟩
      simpa using hv
    · rintro ⟨_, x, _, xs, rfl, rfl, ⟨v, w, vs, ws, rfl, rfl, hv, hw⟩, hx⟩
      refine ⟨v, w ++ x, vs, xs ++ ws,
        by simp, by simp, by simpa using hv, w, x, ws, xs, rfl, rfl, hw, ?_⟩
      simpa using hx

end Sequences

end FloScript.Pattern
