import FloScript.Proofs.Recognition

/-! How a parser ends that does not find its phrase: it has read some tokens and refuses the next
one. What it has read is the beginning of some phrase, so the fault could not have been seen
earlier. -/
namespace FloScript.Parser

variable {α β : Type} {p : Parser α} {f : α → Parser β} {a : α}
  {k wanted close : Kind} {t u : Token} {ts us vs tl : List Token} {cause : SourceFault}

/-- The parser reads `us` and refuses the token after them, whatever comes behind it. -/
def Refuses (p : Parser α) (us : List Token) (t : Token) (cause : SourceFault) : Prop :=
  ∀ tl, p (us ++ t :: tl) = .error (.grammatical t.place cause) (t :: tl)

section Steps

theorem refuses_first (h : Refuses p us t cause) : Refuses (p >>= f) us t cause :=
  fun tl => bind_of_error (h tl)

theorem refuses_bind (hp : Reads p us (ahead vs t.kind) a) (hf : Refuses (f a) vs t cause) :
    Refuses (p >>= f) (us ++ vs) t cause := by
  intro tl
  obtain ⟨s, sl, hs, hk⟩ := exists_head vs tl rfl
  rw [List.append_assoc, hs, bind_of_ok (hp s sl hk), ← hs]
  exact hf tl

theorem refuses_peek (hp : Reads p [] (ahead us t.kind) a) (hf : Refuses (f a) us t cause) :
    Refuses (p >>= f) us t cause := by
  have h : Refuses (p >>= f) ([] ++ us) t cause := refuses_bind hp hf
  exact h

theorem refuses_step (hp : Reads p [u] (ahead us t.kind) a) (hf : Refuses (f a) us t cause) :
    Refuses (p >>= f) (u :: us) t cause := by
  have h : Refuses (p >>= f) ([u] ++ us) t cause := refuses_bind hp hf
  exact h

theorem refuses_finish (hp : Reads p us t.kind a) (hf : Refuses (f a) [] t cause) :
    Refuses (p >>= f) us t cause := by
  have h : Refuses (p >>= f) (us ++ []) t cause := refuses_bind hp hf
  rwa [List.append_nil] at h

theorem refuses_current {g : Token → Parser β} (h : Refuses (g u) (u :: us) t cause) :
    Refuses (current >>= g) (u :: us) t cause := by
  intro tl
  have hc : current (u :: us ++ t :: tl) = .ok u (u :: us ++ t :: tl) := rfl
  rw [bind_of_ok hc]
  exact h tl

theorem refuses_look {g : Token → Parser β} (h : Refuses (g t) [] t cause) :
    Refuses (current >>= g) [] t cause := by
  intro tl
  have hc : current (t :: tl) = .ok t (t :: tl) := rfl
  exact (bind_of_ok hc).trans (h tl)

theorem refuses_currentKind {g : Kind → Parser β} (h : Refuses (g (ahead us t.kind)) us t cause) :
    Refuses (currentKind >>= g) us t cause := by
  intro tl
  obtain ⟨s, sl, hs, hk⟩ := exists_head us tl rfl
  have hc : currentKind (s :: sl) = .ok (ahead us t.kind) (s :: sl) := by rw [← hk]; rfl
  rw [hs, bind_of_ok hc, ← hs]
  exact h tl

theorem refuses_reject : Refuses (reject cause : Parser α) [] t cause := by
  intro tl
  rfl

theorem refuses_expect (h : t.kind ≠ wanted) :
    Refuses (expect wanted) [] t (.expected wanted t.kind) := by
  unfold expect
  apply refuses_look
  rw [if_neg h]
  exact refuses_reject

/-- Reading an expression and then missing the token that closes it. -/
theorem refuses_unclosed {g : α → Parser β} (hp : Reads p us t.kind a) (h : t.kind ≠ close) :
    Refuses (p >>= fun a => expect close >>= fun _ => g a) us t (.expected close t.kind) :=
  refuses_finish hp (refuses_first (refuses_expect h))

end Steps

section Items

variable {lines : Bool} {n : Nat}

theorem refuses_commaAfter (h : Refuses p us t cause) : Refuses (commaAfter p) us t cause :=
  refuses_first h

theorem refuses_spaced (hl : lines = true → ahead us t.kind ≠ .newline) (h : Refuses p us t cause) :
    Refuses (spaced lines p) us t cause := by
  unfold spaced
  cases lines with
  | false => exact refuses_commaAfter h
  | true =>
    have hno : ∀ n ∈ ([] : List Token), n.kind = .newline := by simp
    exact refuses_peek (reads_skipNewlines hno (hl rfl)) (refuses_first (refuses_commaAfter h))

theorem refuses_closedWithin (hne : ahead us t.kind ≠ close) (h : Refuses p us t cause) :
    Refuses (closedWithin close p (n + 1)) us t cause := by
  unfold closedWithin itemsUntil
  rw [bind_assoc]
  apply refuses_currentKind
  rw [if_neg hne]
  simp only [bind_assoc]
  exact refuses_first h

theorem refuses_closedWithin_later (hne : ahead (us ++ vs) t.kind ≠ close)
    (hp : Reads p us (ahead vs t.kind) a) (h : Refuses (closedWithin close p n) vs t cause) :
    Refuses (closedWithin close p (n + 1)) (us ++ vs) t cause := by
  unfold closedWithin itemsUntil
  rw [bind_assoc]
  apply refuses_currentKind
  rw [if_neg hne]
  simp only [bind_assoc, pure_bind]
  apply refuses_bind hp
  have hm : Refuses (do return a :: (← closedWithin close p n)) vs t cause := refuses_first h
  simpa [closedWithin, bind_assoc] using hm

theorem refuses_closedBy (h : ∀ n, us.length < n → Refuses (closedWithin close p n) us t cause) :
    Refuses (closedBy close p) us t cause := by
  intro tl
  exact h (us ++ t :: tl).length (by simp) tl

end Items

section Endings

theorem Ended.exists_cons (h : Ended ts) : ∃ t tl, ts = t :: tl :=
  List.exists_cons_of_ne_nil h.ne_nil

theorem Ended.suffix (h : Ended (us ++ t :: tl)) : Ended (t :: tl) := by
  induction us with
  | nil => exact h
  | cons u us ih =>
    obtain ⟨vs, e, he, hk⟩ := h
    cases vs with
    | nil => simp at he
    | cons v vs => exact ih ⟨vs, e, (List.cons.inj he).2, hk⟩

theorem ahead_eq_of_split (h : ts = us ++ t :: tl) : ahead us t.kind = ahead ts .eof := by
  rw [h, ahead_append, ahead_cons]

/-- What separates an item from the rest of the items. -/
theorem exists_separation (lines : Bool) (he : Ended ts) :
    ∃ cs ns rest, ts = cs ++ (ns ++ rest) ∧ Ended rest ∧
    Separator cs (ahead (ns ++ rest) .eof) ∧ (∀ n ∈ ns, n.kind = .newline) ∧
    (lines = false → ns = []) ∧
    (lines = true → ahead rest .eof ≠ .newline) := by
  -- the comma, and then the newlines if they may stand here
  have hcomma : ∃ cs rest, ts = cs ++ rest ∧ Ended rest ∧ Separator cs (ahead rest .eof) := by
    obtain ⟨t, tl, rfl⟩ := he.exists_cons
    by_cases hk : t.kind = .comma
    · exact ⟨[t], tl, rfl, he.tail (by simp [hk]), .comma hk⟩
    · exact ⟨[], t :: tl, rfl, he, .nothing hk⟩
  obtain ⟨cs, rest, rfl, hr, hs⟩ := hcomma
  cases lines with
  | false => exact ⟨cs, [], rest, rfl, hr, hs, by simp, by simp, by simp⟩
  | true =>
    obtain ⟨ns, hsplit, hn, ha, hd⟩ := dropNewlines_spec hr
    refine ⟨cs, ns, dropNewlines rest,
      by rw [← hsplit], hd, by rwa [← hsplit], hn, by simp, fun _ => ha⟩

end Endings

/-- By what tokens are judged: what they stand for as a whole, how the token after them is refused,
and when more tokens would make a whole of them. -/
structure Standard (α : Type) where
  whole : α → List Token → Kind → Prop
  refused : List Token → Token → SourceFault → Prop
  begun : List Token → Prop

/-- The standard for what comes after some tokens. -/
def Standard.after (S : Standard α) (ws : List Token) : Standard α where
  whole a us k := S.whole a (ws ++ us) k
  refused us t cause := S.refused (ws ++ us) t cause
  begun us := S.begun (ws ++ us)

/-- The standard for what comes after one token. -/
def Standard.next (S : Standard α) (t : Token) : Standard α where
  whole a us k := S.whole a (t :: us) k
  refused us u cause := S.refused (t :: us) u cause
  begun us := S.begun (t :: us)

theorem Standard.after_append (S : Standard α) (ws us : List Token) :
    S.after (ws ++ us) = (S.after ws).after us := by
  simp [Standard.after]

theorem Standard.after_cons (S : Standard α) (t : Token) (us : List Token) :
    S.after (t :: us) = (S.next t).after us := rfl

/-- What comes of the tokens: they begin with a whole, or some of them begin one and the next one is
refused. -/
inductive Verdict (S : Standard α) (ts : List Token) : Prop where
  | reads (us : List Token) (t : Token) (tl : List Token) {a : α} :
      ts = us ++ t :: tl → S.whole a us t.kind → Verdict S ts
  | refuses (us : List Token) (t : Token) (tl : List Token) {cause : SourceFault} :
      ts = us ++ t :: tl → S.refused us t cause → S.begun us → Verdict S ts

namespace Verdict

variable {S : Standard α} {S' : Standard β} {ws : List Token}

theorem shift (h : Verdict (S.after ws) ts) : Verdict S (ws ++ ts) := by
  cases h with
  | reads us t tl hts h => exact .reads (ws ++ us) t tl (by simp [hts]) h
  | refuses us t tl hts hr hb => exact .refuses (ws ++ us) t tl (by simp [hts]) hr hb

theorem step (h : Verdict (S.next t) ts) : Verdict S (t :: ts) := by
  cases h with
  | reads us u ul hts h => exact .reads (t :: us) u ul (by simp [hts]) h
  | refuses us u ul hts hr hb => exact .refuses (t :: us) u ul (by simp [hts]) hr hb

theorem here {a : α} (h : S.whole a us t.kind) : Verdict (S.after us) (t :: tl) :=
  .reads [] t tl rfl (by simpa [Standard.after] using h)

theorem stop (hr : S.refused us t cause) (hb : S.begun us) : Verdict (S.after us) (t :: tl) := by
  have hr' : (S.after us).refused [] t cause := by simpa [Standard.after] using hr
  exact .refuses [] t tl rfl hr' (by simpa [Standard.after] using hb)

/-- One verdict after the other. -/
theorem bind (h : Verdict S ts)
    (hw : ∀ us u ul a, ts = us ++ u :: ul → S.whole a us u.kind → Verdict (S'.after us) (u :: ul))
    (hr : ∀ us u ul cause, ts = us ++ u :: ul → S.refused us u cause → S'.refused us u cause)
    (hb : ∀ us u ul, ts = us ++ u :: ul → S.begun us → S'.begun us) : Verdict S' ts := by
  cases h with
  | reads us u ul hts h =>
    have hv := hw us u ul _ hts h
    rw [hts]
    exact hv.shift
  | refuses us u ul hts h hbegun =>
    exact .refuses us u ul hts (hr us u ul _ hts h) (hb us u ul hts hbegun)

theorem map (h : Verdict S ts)
    (hw : ∀ us u ul a, ts = us ++ u :: ul → S.whole a us u.kind → ∃ b, S'.whole b us u.kind)
    (hr : ∀ us u ul cause, ts = us ++ u :: ul → S.refused us u cause → S'.refused us u cause)
    (hb : ∀ us u ul, ts = us ++ u :: ul → S.begun us → S'.begun us) : Verdict S' ts := by
  refine h.bind (fun us u ul a hts h => ?_) hr hb
  obtain ⟨b, hb⟩ := hw us u ul a hts h
  exact here hb

end Verdict

variable {s : Shape} {c item : Phrase s}

/-- When some more tokens are added, the tokens stand in the relation before every token that does
not go on with an expression. -/
def Begins (R : α → List Token → Kind → Prop) (us : List Token) : Prop :=
  ∃ a vs, ∀ k, k.continues = false → R a (us ++ vs) k

def Phrase.Completable (c : Phrase s) (us : List Token) : Prop := Begins (Spells c) us

theorem Spells.completable {a : s.Carrier} (h : Spells c a us k) : c.Completable us :=
  ⟨a, [], fun _ hj => by simpa using h.before hj⟩

/-- How the parser of a phrase refuses a token. The bounds on the depth are those under which a
phrase is read, with room to look at one token more. -/
def Phrase.Refused : {s : Shape} → Phrase s → List Token → Token → SourceFault → Prop
  | _, .expression, us, t, cause =>
    ∀ n, 2 * us.length + 2 ≤ n → Refuses (expressionWithin n) us t cause
  | _, .ternary, us, t, cause =>
    ∀ n, 2 * us.length + 1 ≤ n → Refuses (ternaryOf (expressionWithin n) (unaryWithin n)) us t cause
  | _, .tier m, us, t, cause =>
    ∀ n, 2 * us.length + 1 ≤ n → Refuses (tierOf (unaryWithin n) m) us t cause
  | _, .chain m, us, t, cause =>
    ∀ n, 2 * us.length + 1 ≤ n →
      Refuses (level (operatorsAt m) (tierOf (unaryWithin n) m)) us t cause
  | _, .spine, us, t, cause =>
    ∀ n, 2 * us.length ≤ n → Refuses (postfixOf (expressionWithin n)) us t cause
  | _, .primary, us, t, cause =>
    ∀ n, 2 * us.length ≤ n → Refuses (primaryOf (expressionWithin n)) us t cause
  | _, .name, us, t, cause => ∀ n, Refuses (Phrase.name.listParser n) us t cause
  | _, .pair, us, t, cause =>
    ∀ n, 2 * us.length + 2 ≤ n → Refuses (dictPair (expressionWithin n)) us t cause
  | _, @Phrase.items s close lines item, us, t, cause => ∀ p : Parser s.Carrier,
    (∀ x vs k, vs.length ≤ us.length → Spells item x vs k → Reads p vs k x) →
    (∀ vs u c, vs.length ≤ us.length → item.Refused vs u c → Refuses p vs u c) →
    ∀ f, us.length < f → Refuses (closedWithin close (spaced lines p) f) us t cause

@[reducible] def Phrase.standard (c : Phrase s) : Standard s.Carrier :=
  ⟨Spells c, c.Refused, c.Completable⟩

/-- Something comes of every list of tokens up to a length. -/
def Phrase.Decided (c : Phrase s) (L : Nat) : Prop :=
  ∀ ts, Ended ts → ts.length ≤ L → Verdict c.standard ts

/-- Any token of a kind, to complete others with. -/
def sample (k : Kind) : Token := ⟨k, .null, ⟨0, 0⟩⟩

@[simp] theorem kind_sample : (sample k).kind = k := rfl

theorem spells_sample (hk : k.continues = false) :
    Spells .expression (.number .null) [sample .number] k :=
  .ofPrimary (.leaf rfl) hk

theorem completable_nil : Phrase.expression.Completable [] :=
  ⟨_, [sample .number], fun _ hk => spells_sample hk⟩

theorem decided_name (L : Nat) : Phrase.name.Decided L := by
  intro ts he _
  obtain ⟨t, tl, rfl⟩ := he.exists_cons
  by_cases hk : t.kind = .identifier
  · obtain ⟨u, ul, rfl⟩ := (he.tail (by simp [hk])).exists_cons
    exact .reads [t] u ul rfl (.name hk)
  · refine .refuses [] t tl rfl (fun _ => refuses_first (refuses_expect hk)) ?_
    exact ⟨_, [sample .identifier], fun _ _ => .name rfl⟩

section Lists

variable {x : s.Carrier} {lines : Bool} {L n : Nat}

/-- The parser reads the phrase in up to `m` tokens, and refuses what is refused after so many. -/
structure Phrase.Parses (item : Phrase s) (p : Parser s.Carrier) (m : Nat) : Prop where
  reads : ∀ x us k, us.length ≤ m → Spells item x us k → Reads p us k x
  refuses : ∀ us t cause, us.length ≤ m → item.Refused us t cause → Refuses p us t cause

theorem Phrase.Parses.mono {p : Parser s.Carrier} {l m : Nat} (h : item.Parses p m) (hl : l ≤ m) :
    item.Parses p l :=
  ⟨fun x us k hu => h.reads x us k (by omega), fun us t cause hu => h.refuses us t cause (by omega)⟩

theorem parses_within (hn : 2 * us.length + 2 ≤ n) :
    Phrase.expression.Parses (expressionWithin n) us.length :=
  ⟨fun _ _ _ hl h => h.accepted n (by omega), fun _ _ _ hl h => h n (by omega)⟩

theorem parses_dictPair (hn : 2 * us.length + 2 ≤ n) :
    Phrase.pair.Parses (dictPair (expressionWithin n)) us.length :=
  ⟨fun _ _ _ hl h => h.accepted n (by omega), fun _ _ _ hl h => h n (by omega)⟩

theorem parses_name (m : Nat) : Phrase.name.Parses (do return (← expect .identifier).text) m :=
  ⟨fun _ _ _ _ h => h.accepted 0, fun _ _ _ _ h => h 0⟩

theorem Phrase.Parses.refuses_items {p : Parser s.Carrier} (hp : item.Parses p us.length)
    (h : (Phrase.items close lines item).Refused us t cause) :
    Refuses (closedBy close (spaced lines p)) us t cause :=
  refuses_closedBy (h p hp.reads hp.refuses)

/-- The closing token of a list of items, which begins none of them. -/
structure Phrase.ClosedBy (item : Phrase s) (close : Kind) : Prop where
  stops : close.continues = false
  inside : close ≠ .eof ∧ close ≠ .newline ∧ close ≠ .comma
  opens : ∀ k, item.Opens k → k ≠ close ∧ k ≠ .newline

/-- An item that has been begun is completed and closed. -/
theorem Phrase.ClosedBy.completable_first (hi : item.Listed) (hc : item.ClosedBy close)
    (h : item.Completable us) : (Phrase.items close lines item).Completable us := by
  obtain ⟨x, vs, h⟩ := h
  refine ⟨[x], vs ++ [sample close], fun k _ => ?_⟩
  have hx : Spells item x (us ++ vs) close := h close hc.stops
  obtain ⟨hclose, hline⟩ := hc.opens _ hx.opens
  have hall :
      Spells (.items close lines item) [x] ((us ++ vs) ++ ([] ++ ([] ++ [sample close]))) k := by
    refine .cons hi ?_ (fun _ => ?_) (by simpa using hx) (.nothing ?_) (by simp) (by simp)
      (fun _ => ?_) (.nil rfl)
    · simpa using hclose
    · simpa using hline
    · simpa using hc.inside.2.2
    · simpa using hc.inside.2.1
  simpa using hall

/-- Items after the first are completed, whatever was begun of them. -/
theorem Phrase.ClosedBy.completable_later (hi : item.Listed)
    (hc : item.ClosedBy close) {cs ns : List Token}
    (hx : Spells item x us (ahead (cs ++ (ns ++ vs)) k)) (hs : Separator cs (ahead (ns ++ vs) k))
    (hn : ∀ n ∈ ns, n.kind = .newline) (hf : lines = false → ns = [])
    (hv : lines = true → ahead vs k ≠ .newline)
    (h : (Phrase.items close lines item).Completable vs) :
    (Phrase.items close lines item).Completable (us ++ (cs ++ (ns ++ vs))) := by
  obtain ⟨hclose, hline⟩ := hc.opens _ hx.opens
  have hfirst : ∀ j ws, ahead (us ++ ws) j = ahead us (ahead (cs ++ (ns ++ vs)) k) := by
    intro j ws
    rw [ahead_append]
    exact ahead_of_ne_nil hx.ne_nil _ _
  by_cases hnil : vs = []
  · -- nothing was begun, so the list is closed here
    subst hnil
    refine ⟨[x], [sample close], fun j _ => ?_⟩
    have hx' : Spells item x us (ahead (cs ++ (ns ++ [sample close])) j) := by
      cases cs with
      | cons c cs => exact hx
      | nil =>
        cases ns with
        | cons n ns => exact hx
        | nil => exact hx.before hc.stops
    have hs' : Separator cs (ahead (ns ++ [sample close]) j) := by
      cases hs with
      | comma h => exact .comma h
      | nothing h =>
        cases ns with
        | cons n ns => exact .nothing h
        | nil => exact .nothing hc.inside.2.2
    have hall : Spells (.items close lines item) [x] (us ++ (cs ++ (ns ++ [sample close]))) j :=
      .cons hi (by rwa [hfirst]) (fun _ => by rwa [hfirst]) hx' hs' hn hf
        (fun _ => hc.inside.2.1) (.nil rfl)
    simpa using hall
  · obtain ⟨xs, ws, h⟩ := h
    refine ⟨x :: xs, ws, fun j hj => ?_⟩
    have hsame : ahead (vs ++ ws) j = ahead vs k := by
      rw [ahead_append]
      exact ahead_of_ne_nil hnil _ _
    rw [ahead_append, ahead_append] at hx
    rw [ahead_append] at hs
    have hall : Spells (.items close lines item) (x :: xs) (us ++ (cs ++ (ns ++ (vs ++ ws)))) j :=
      .cons hi (by rwa [hfirst]) (fun _ => by rwa [hfirst]) (by simpa [hsame] using hx)
        (by simpa [hsame] using hs) hn
        hf (by rwa [hsame]) (h j hj)
    simpa using hall

/-- An item has been read, and the items after it are refused. -/
theorem refused_items_later {cs ns : List Token} (hne : ahead us k ≠ close)
    (hl : lines = true → ahead us k ≠ .newline)
    (hx : Spells item x us (ahead (cs ++ (ns ++ vs)) t.kind))
    (hs : Separator cs (ahead (ns ++ vs) t.kind)) (hn : ∀ n ∈ ns, n.kind = .newline)
    (hf : lines = false → ns = []) (hv : lines = true → ahead vs t.kind ≠ .newline)
    (h : (Phrase.items close lines item).Refused vs t cause) :
    (Phrase.items close lines item).Refused (us ++ (cs ++ (ns ++ vs))) t cause := by
  intro p hread hrefuse f hg
  have hpos := List.length_pos_iff.mpr hx.ne_nil
  simp only [List.length_append] at hread hrefuse hg
  simp only [ahead_append] at hx hs
  obtain ⟨g, rfl⟩ : ∃ g, f = g + 1 := ⟨f - 1, by omega⟩
  have hitem : Reads p us (ahead (cs ++ ns) (ahead vs t.kind)) x := by
    rw [ahead_append]
    exact hread _ _ _ (by omega) hx
  have hlater : Refuses (closedWithin close (spaced lines p) g) vs t cause :=
    h p (fun _ _ _ hl => hread _ _ _ (by omega)) (fun _ _ _ hl => hrefuse _ _ _ (by omega)) g
      (by omega)
  have hfirst : ∀ j ws, ahead (us ++ ws) j = ahead us k := by
    intro j ws
    rw [ahead_append]
    exact ahead_of_ne_nil hx.ne_nil _ _
  have hspaced := reads_spaced (by rwa [hfirst]) hitem hs hn hf hv
  have hall := refuses_closedWithin_later (by rwa [List.append_assoc, hfirst]) hspaced hlater
  simpa using hall

theorem refused_items_first (hne : ahead us t.kind ≠ close)
    (hl : lines = true → ahead us t.kind ≠ .newline) (h : item.Refused us t cause) :
    (Phrase.items close lines item).Refused us t cause := by
  intro p _ hrefuse f hg
  obtain ⟨g, rfl⟩ : ∃ g, f = g + 1 := ⟨f - 1, by omega⟩
  exact refuses_closedWithin hne (refuses_spaced hl (hrefuse _ _ _ (Nat.le_refl _) h))

theorem decided_items (hi : item.Listed) (hc : item.ClosedBy close)
    (hd : item.Decided L) (he : Ended ts) (hL : ts.length ≤ L)
    (hl : lines = true → ahead ts .eof ≠ .newline) :
    Verdict (Phrase.items close lines item).standard ts := by
  generalize hm : ts.length = m
  induction m using Nat.strongRecOn generalizing ts with
  | ind m ih =>
    by_cases hk : ahead ts .eof = close
    · obtain ⟨t, tl, rfl⟩ := he.exists_cons
      rw [ahead_cons] at hk
      obtain ⟨u, ul, rfl⟩ := (he.tail (by rw [hk]; exact hc.inside.1)).exists_cons
      exact .reads [t] u ul rfl (.nil hk)
    refine (hd ts he hL).bind (fun us u ul x hts hx => ?_) (fun us u ul cause hts hr => ?_)
      (fun us u ul _ hcomp => hc.completable_first hi hcomp)
    · have hpos := List.length_pos_iff.mpr hx.ne_nil
      rw [← ahead_eq_of_split hts] at hk hl
      rw [hts] at he
      obtain ⟨cs, ns, rest, hsplit, hrest, hs, hn, hf, hv⟩ := exists_separation lines he.suffix
      replace hx : Spells item x us (ahead (u :: ul) .eof) := hx
      rw [hsplit] at hts hx ⊢
      have hlen := congrArg List.length hts
      simp only [List.length_append] at hlen
      refine Verdict.shift (Verdict.shift ((ih rest.length (by omega) hrest (by omega) hv rfl).map
        (fun vs w wl xs hvs hxs => ⟨x :: xs, ?_⟩) (fun vs w wl cause hvs hr => ?_)
          (fun vs w wl hvs hcomp => ?_)))
      · rw [hvs] at hx hs hv
        have hfilled : ∀ j ws, ahead us (ahead ws j) = ahead us u.kind :=
          fun j ws => ahead_of_ne_nil hx.ne_nil _ _
        simp only [ahead_append, ahead_cons] at hx hs hv
        refine .cons hi ?_ (fun h => ?_) (by simpa using hx) (by simpa using hs) hn hf hv hxs
        · rwa [ahead_append, hfilled]
        · rw [ahead_append, hfilled]
          exact hl h
      · rw [hvs] at hx hs hv
        simp only [ahead_append, ahead_cons] at hx hs hv
        exact refused_items_later hk hl (by simpa using hx) (by simpa using hs) hn hf hv hr
      · rw [hvs] at hx hs hv
        simp only [ahead_append, ahead_cons] at hx hs hv
        exact hc.completable_later hi (by simpa using hx) (by simpa using hs) hn hf hv hcomp
    · rw [← ahead_eq_of_split hts] at hk hl
      exact refused_items_first hk hl hr

end Lists

end FloScript.Parser
