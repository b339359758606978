import FloScript.Grammar.Statement

/-! Runs of tokens that a parser reads whatever comes after them. A parser looks at most one token
ahead, so of what follows only the kind of its first token matters. -/
namespace FloScript.Parser

variable {α β : Type} {p : Parser α} {f : α → Parser β} {a a' : α} {b : β} {k wanted : Kind}
  {t : Token} {ts us vs ns rest : List Token}

theorem bind_of_ok (h : p ts = .ok a rest) : (p >>= f) ts = f a rest := by
  change EStateM.bind p f ts = _
  simp [EStateM.bind, h]

theorem bind_of_error {e : Fault} (h : p ts = .error e rest) : (p >>= f) ts = .error e rest := by
  change EStateM.bind p f ts = _
  simp [EStateM.bind, h]

theorem bind_eq_ok :
    (p >>= f) ts = .ok b rest ↔ ∃ a us, p ts = .ok a us ∧ f a us = .ok b rest := by
  cases h : p ts with
  | ok a us =>
    rw [bind_of_ok h]
    constructor
    · intro hf
      exact ⟨a, us, rfl, hf⟩
    · rintro ⟨a', us', he, hf⟩
      cases he
      exact hf
  | error e us => simp [bind_of_error h]

theorem pure_eq_ok : (pure a : Parser α) ts = .ok a' rest ↔ a = a' ∧ ts = rest := by
  change EStateM.Result.ok a ts = .ok a' rest ↔ _
  simp

@[simp] theorem discard_bind (g : Unit → Parser β) : (discard p >>= g) = p >>= fun _ => g () := by
  funext ts
  change EStateM.bind (EStateM.map _ p) g ts = EStateM.bind p (fun _ => g ()) ts
  simp only [EStateM.bind, EStateM.map]
  cases p ts <;> rfl

/-- The kind of the first token of `us`, or `k` if there is none. -/
def ahead : List Token → Kind → Kind
  | [], k => k
  | t :: _, _ => t.kind

@[simp] theorem ahead_nil : ahead [] k = k := rfl

@[simp] theorem ahead_cons : ahead (t :: us) k = t.kind := rfl

@[simp] theorem ahead_append : ahead (us ++ vs) k = ahead us (ahead vs k) := by
  cases us <;> rfl

theorem ahead_of_ne_nil (h : us ≠ []) (j k : Kind) : ahead us j = ahead us k := by
  cases us with
  | nil => exact absurd rfl h
  | cons t us => rfl

theorem exists_head (us : List Token) {r : Token} (tl : List Token) (hr : r.kind = k) :
    ∃ s sl, us ++ r :: tl = s :: sl ∧ s.kind = ahead us k := by
  cases us with
  | nil => exact ⟨r, tl, rfl, hr⟩
  | cons t us => exact ⟨t, us ++ r :: tl, rfl, rfl⟩

/-- The parser reads `us` and gives `a`, whenever a token of kind `k` follows. -/
def Reads (p : Parser α) (us : List Token) (k : Kind) (a : α) : Prop :=
  ∀ r tl, r.kind = k → p (us ++ r :: tl) = .ok a (r :: tl)

theorem reads_pure : Reads (pure a) [] k a := by
  intro r tl _
  rfl

theorem reads_bind (hp : Reads p us (ahead vs k) a) (hf : Reads (f a) vs k b) :
    Reads (p >>= f) (us ++ vs) k b := by
  intro r tl hr
  obtain ⟨s, sl, hs, hk⟩ := exists_head vs tl hr
  rw [List.append_assoc, hs, bind_of_ok (hp s sl hk), ← hs]
  exact hf r tl hr

/-- Reading on without having read anything yet. -/
theorem reads_peek (hp : Reads p [] (ahead us k) a) (hf : Reads (f a) us k b) :
    Reads (p >>= f) us k b := by
  have h : Reads (p >>= f) ([] ++ us) k b := reads_bind hp hf
  exact h

/-- Reading one token and then the others. -/
theorem reads_step (hp : Reads p [t] (ahead us k) a) (hf : Reads (f a) us k b) :
    Reads (p >>= f) (t :: us) k b := by
  have h : Reads (p >>= f) ([t] ++ us) k b := reads_bind hp hf
  exact h

/-- Reading nothing more. -/
theorem reads_finish (hp : Reads p us k a) (hf : Reads (f a) [] k b) : Reads (p >>= f) us k b := by
  have h : Reads (p >>= f) (us ++ []) k b := reads_bind hp hf
  rwa [List.append_nil] at h

theorem reads_map {g : α → β} (hp : Reads p us k a) : Reads (do return g (← p)) us k (g a) :=
  reads_finish hp reads_pure

theorem reads_current {g : Token → Parser β} (h : Reads (g t) (t :: us) k b) :
    Reads (current >>= g) (t :: us) k b := by
  intro r tl hr
  have hc : current (t :: (us ++ r :: tl)) = .ok t (t :: (us ++ r :: tl)) := rfl
  rw [List.cons_append, bind_of_ok hc]
  exact h r tl hr

theorem reads_currentKind {g : Kind → Parser β} (h : Reads (g (ahead us k)) us k b) :
    Reads (currentKind >>= g) us k b := by
  intro r tl hr
  obtain ⟨s, sl, hs, hk⟩ := exists_head us tl hr
  have hc : currentKind (s :: sl) = .ok (ahead us k) (s :: sl) := by rw [← hk]; rfl
  rw [hs, bind_of_ok hc, ← hs]
  exact h r tl hr

theorem reads_advance : Reads advance [t] k t := by
  intro r tl _
  rfl

theorem reads_expect (h : t.kind = wanted) : Reads (expect wanted) [t] k t := by
  unfold expect
  apply reads_current
  rw [if_pos h]
  exact reads_advance

theorem reads_accept (h : t.kind = wanted) : Reads (accept wanted) [t] k true := by
  unfold accept
  apply reads_currentKind
  rw [ahead_cons, if_pos h, discard_bind]
  exact reads_step reads_advance reads_pure

theorem reads_accept_other (h : k ≠ wanted) : Reads (accept wanted) [] k false := by
  unfold accept
  apply reads_currentKind
  rw [ahead_nil, if_neg h]
  exact reads_pure

theorem dropNewlines_append (hn : ∀ n ∈ ns, n.kind = .newline) {r : Token} (hr : r.kind ≠ .newline)
    (tl : List Token) : dropNewlines (ns ++ r :: tl) = r :: tl := by
  induction ns with
  | nil =>
    cases tl with
    | nil => simp [dropNewlines]
    | cons s tl => simp [dropNewlines, hr]
  | cons n ns ih =>
    have hn' := hn n (by simp)
    have ih' := ih fun m hm => hn m (by simp [hm])
    obtain ⟨s, sl, hs, -⟩ := exists_head ns tl rfl
    rw [hs] at ih'
    rw [List.cons_append, hs, dropNewlines, if_pos hn', ih']

theorem reads_skipNewlines (hn : ∀ n ∈ ns, n.kind = .newline) (hk : k ≠ .newline) :
    Reads skipNewlines ns k () := by
  intro r tl hr
  obtain ⟨s, sl, hs, -⟩ := exists_head ns tl hr
  have hc : current (s :: sl) = .ok s (s :: sl) := rfl
  unfold skipNewlines
  rw [discard_bind, hs, bind_of_ok hc, ← hs]
  change EStateM.Result.ok () (dropNewlines (ns ++ r :: tl)) = _
  rw [dropNewlines_append hn (by rwa [hr])]

end FloScript.Parser
