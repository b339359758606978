import FloScript.Proofs.Acceptance

/-! Every phrase that is read is spelled. The tokens end with an end mark, so a parser that has not
failed has never stood on the last token and tried to pass it. -/
namespace FloScript.Parser

variable {α β : Type} {p : Parser α} {k wanted : Kind} {t : Token} {ts us rest : List Token}

/-- The last token marks the end. -/
def Ended (ts : List Token) : Prop := ∃ us e, ts = us ++ [e] ∧ e.kind = .eof

theorem Ended.ne_nil (h : Ended ts) : ts ≠ [] := by
  obtain ⟨us, e, rfl, -⟩ := h
  simp

theorem Ended.tail (h : Ended (t :: ts)) (ht : t.kind ≠ .eof) : Ended ts := by
  obtain ⟨us, e, he, hk⟩ := h
  cases us with
  | nil =>
    cases he
    exact absurd hk ht
  | cons u us =>
    cases he
    exact ⟨us, e, rfl, hk⟩

theorem current_eq_ok (h : current ts = .ok t rest) : rest = ts ∧ ∃ tl, ts = t :: tl := by
  cases ts with
  | nil => cases h
  | cons u us =>
    cases h
    exact ⟨rfl, us, rfl⟩

theorem currentKind_eq_ok (h : currentKind ts = .ok k rest) : rest = ts ∧ k = ahead ts .eof := by
  cases ts with
  | nil => cases h
  | cons u us =>
    cases h
    exact ⟨rfl, rfl⟩

theorem advance_eq_ok {u : Token} (he : Ended (u :: us)) (hu : u.kind ≠ .eof)
    (h : advance (u :: us) = .ok t rest) : t = u ∧ rest = us ∧ Ended rest := by
  have ht := he.tail hu
  cases us with
  | nil => exact absurd rfl ht.ne_nil
  | cons v us =>
    cases h
    exact ⟨rfl, rfl, ht⟩

theorem advance_bind_eq_ok {q : Parser β} {b : β} (he : Ended (t :: us)) (ht : t.kind ≠ .eof)
    (h : (advance >>= fun _ => q) (t :: us) = .ok b rest) : Ended us ∧ q us = .ok b rest := by
  obtain ⟨u, vs, ha, hq⟩ := bind_eq_ok.mp h
  obtain ⟨-, rfl, hd⟩ := advance_eq_ok he ht ha
  exact ⟨hd, hq⟩

theorem expect_eq_ok (he : Ended ts) (hw : wanted ≠ .eof) (h : expect wanted ts = .ok t rest) :
    ts = t :: rest ∧ t.kind = wanted ∧ Ended rest := by
  obtain ⟨u, us, hc, hr⟩ := bind_eq_ok.mp h
  obtain ⟨rfl, tl, rfl⟩ := current_eq_ok hc
  split at hr
  · next hk =>
    obtain ⟨rfl, rfl, hd⟩ := advance_eq_ok he (by rwa [hk]) hr
    exact ⟨rfl, hk, hd⟩
  · cases hr

theorem accept_eq_ok {b : Bool} (he : Ended ts) (hw : wanted ≠ .eof)
    (h : accept wanted ts = .ok b rest) :
    Ended rest ∧ ((b = true ∧ ∃ u, ts = u :: rest ∧ u.kind = wanted) ∨
      (b = false ∧ rest = ts ∧ ahead ts .eof ≠ wanted)) := by
  obtain ⟨j, us, hc, hr⟩ := bind_eq_ok.mp h
  obtain ⟨rfl, rfl⟩ := currentKind_eq_ok hc
  split at hr
  · next hk =>
    rw [discard_bind] at hr
    obtain ⟨u, vs, ha, hv⟩ := bind_eq_ok.mp hr
    obtain ⟨rfl, rfl⟩ := pure_eq_ok.mp hv
    cases us with
    | nil => exact absurd rfl he.ne_nil
    | cons v us =>
      obtain ⟨rfl, rfl, hd⟩ := advance_eq_ok he (by rw [← ahead_cons, hk]; exact hw) ha
      exact ⟨hd, .inl ⟨rfl, u, rfl, hk⟩⟩
  · next hk =>
    obtain ⟨rfl, rfl⟩ := pure_eq_ok.mp hr
    exact ⟨he, .inr ⟨rfl, rfl, hk⟩⟩

theorem dropNewlines_spec (he : Ended ts) : ∃ ns, ts = ns ++ dropNewlines ts ∧
    (∀ n ∈ ns, n.kind = .newline) ∧ ahead (dropNewlines ts) .eof ≠ .newline ∧
    Ended (dropNewlines ts) := by
  induction ts using dropNewlines.induct with
  | case1 u v ts hk ih =>
    obtain ⟨ns, hs, hn, ha, hd⟩ := ih (he.tail (by simp [hk]))
    have hu : dropNewlines (u :: v :: ts) = dropNewlines (v :: ts) := by simp [dropNewlines, hk]
    rw [hu]
    exact ⟨u :: ns, by rw [List.cons_append, ← hs], by simpa [hk] using hn, ha, hd⟩
  | case2 u v ts hk =>
    have hu : dropNewlines (u :: v :: ts) = u :: v :: ts := by simp [dropNewlines, hk]
    rw [hu]
    exact ⟨[], rfl, by simp, hk, he⟩
  | case3 ts hts =>
    obtain ⟨us, e, rfl, hk⟩ := he
    cases us with
    | nil => exact ⟨[], rfl, by simp, by simp [dropNewlines, hk], [], e, rfl, hk⟩
    | cons u us =>
      cases us with
      | nil => exact absurd rfl (hts u e [])
      | cons v us => exact absurd rfl (hts u v (us ++ [e]))

theorem skipNewlines_eq_ok {v : Unit} (he : Ended ts) (h : skipNewlines ts = .ok v rest) :
    ∃ ns, ts = ns ++ rest ∧ (∀ n ∈ ns, n.kind = .newline) ∧ ahead rest .eof ≠ .newline ∧
      Ended rest := by
  unfold skipNewlines at h
  rw [discard_bind] at h
  obtain ⟨u, us, hc, hr⟩ := bind_eq_ok.mp h
  obtain ⟨rfl, -⟩ := current_eq_ok hc
  cases hr
  exact dropNewlines_spec he

/-- There is nothing to pass over in front of another token. -/
theorem skipNewlines_eq_self {v : Unit} (he : Ended ts) (ha : ahead ts .eof ≠ .newline)
    (h : skipNewlines ts = .ok v rest) : ts = rest := by
  obtain ⟨ns, rfl, hn, -, -⟩ := skipNewlines_eq_ok he h
  cases ns with
  | nil => rfl
  | cons n ns => exact absurd (hn n (by simp)) ha

variable {s : Shape} {c : Phrase s}

/-- What the parser reads is a phrase of the given sort. -/
def Phrase.Recognized (c : Phrase s) (p : Parser s.Carrier) : Prop :=
  ∀ ts a rest, Ended ts → p ts = .ok a rest →
    Ended rest ∧ ∃ us, ts = us ++ rest ∧ Spells c a us (ahead rest .eof)

theorem recognized_name : Phrase.name.Recognized (do return (← expect .identifier).text) := by
  intro ts a rest he h
  obtain ⟨t, us, ht, hp⟩ := bind_eq_ok.mp h
  obtain ⟨rfl, rfl⟩ := pure_eq_ok.mp hp
  obtain ⟨rfl, hk, hd⟩ := expect_eq_ok he (by decide) ht
  exact ⟨hd, [t], rfl, .name hk⟩

theorem commaAfter_eq_ok {p : Parser α} {a : α} (he : ∀ us, p ts = .ok a us → Ended us)
    (h : commaAfter p ts = .ok a rest) :
    ∃ cs, p ts = .ok a (cs ++ rest) ∧ Separator cs (ahead rest .eof) ∧ Ended rest := by
  obtain ⟨x, us, hx, hr⟩ := bind_eq_ok.mp h
  rw [discard_bind] at hr
  obtain ⟨b, vs, hb, hp⟩ := bind_eq_ok.mp hr
  obtain ⟨rfl, rfl⟩ := pure_eq_ok.mp hp
  obtain ⟨hd, ⟨-, u, rfl, hu⟩ | ⟨-, rfl, hu⟩⟩ := accept_eq_ok (he us hx) (by decide) hb
  · exact ⟨[u], hx, .comma hu, hd⟩
  · exact ⟨[], hx, .nothing hu, hd⟩

/-- The tokens of one item of a list, what separates it from the rest, and the rest. -/
structure ItemSplit (c : Phrase s) (lines : Bool) (a : s.Carrier) (ts rest : List Token) :
    Prop where
  ended : Ended rest
  split : ∃ us cs ns, ts = us ++ (cs ++ (ns ++ rest)) ∧
    Spells c a us (ahead (cs ++ (ns ++ rest)) .eof) ∧ Separator cs (ahead (ns ++ rest) .eof) ∧
    (∀ n ∈ ns, n.kind = .newline) ∧ (lines = false → ns = []) ∧
    (lines = true → ahead rest .eof ≠ .newline)

theorem spaced_eq_ok {p : Parser s.Carrier} {a : s.Carrier} {lines : Bool} (hp : c.Recognized p)
    (he : Ended ts) (hl : lines = true → ahead ts .eof ≠ .newline)
    (h : spaced lines p ts = .ok a rest) :
    ItemSplit c lines a ts rest := by
  unfold spaced at h
  cases lines with
  | false =>
    obtain ⟨cs, hx, hs, hd⟩ := commaAfter_eq_ok (fun us hu => (hp ts a us he hu).1) h
    obtain ⟨-, us, rfl, hu⟩ := hp ts a _ he hx
    exact ⟨hd, us, cs, [], rfl, hu, hs, by simp, by simp, by simp⟩
  | true =>
    obtain ⟨_, us, hv, hr⟩ := bind_eq_ok.mp h
    obtain rfl := skipNewlines_eq_self he (hl rfl) hv
    obtain ⟨x, vs, hx, hr⟩ := bind_eq_ok.mp hr
    obtain ⟨cs, hx, hs, hd⟩ := commaAfter_eq_ok (fun us hu => (hp _ x us he hu).1) hx
    obtain ⟨_, ws, hw, hr⟩ := bind_eq_ok.mp hr
    obtain ⟨rfl, rfl⟩ := pure_eq_ok.mp hr
    obtain ⟨ns, rfl, hn, ha, hd⟩ := skipNewlines_eq_ok hd hw
    obtain ⟨-, us, rfl, hu⟩ := hp _ x _ he hx
    exact ⟨hd, us, cs, ns, rfl, hu, hs, hn, by simp, fun _ => ha⟩

theorem itemsUntil_eq_ok {p : Parser s.Carrier} {xs : List s.Carrier} {lines : Bool}
    {close : Kind} {t : Token} {mid : List Token} (hi : c.Listed) (hp : c.Recognized p)
    (hc : close ≠ .eof) {n : Nat} (he : Ended ts) (hl : lines = true → ahead ts .eof ≠ .newline)
    (h : itemsUntil close (spaced lines p) n ts = .ok xs mid) (hm : expect close mid = .ok t rest) :
    Ended rest ∧ ∃ us, ts = us ++ rest ∧ Spells (.items close lines c) xs us (ahead rest .eof) := by
  induction n generalizing ts xs with
  | zero =>
    unfold itemsUntil at h
    obtain ⟨k, us, hk, hr⟩ := bind_eq_ok.mp h
    obtain ⟨rfl, rfl⟩ := currentKind_eq_ok hk
    split at hr
    · obtain ⟨rfl, rfl⟩ := pure_eq_ok.mp hr
      obtain ⟨rfl, ht, hd⟩ := expect_eq_ok he hc hm
      exact ⟨hd, [t], rfl, .nil ht⟩
    · cases hr
  | succ n ih =>
    unfold itemsUntil at h
    obtain ⟨k, us, hk, hr⟩ := bind_eq_ok.mp h
    obtain ⟨rfl, rfl⟩ := currentKind_eq_ok hk
    split at hr
    · obtain ⟨rfl, rfl⟩ := pure_eq_ok.mp hr
      obtain ⟨rfl, ht, hd⟩ := expect_eq_ok he hc hm
      exact ⟨hd, [t], rfl, .nil ht⟩
    · next hne =>
      obtain ⟨x, vs, hx, hr⟩ := bind_eq_ok.mp hr
      obtain ⟨xs', ws, hxs, hr⟩ := bind_eq_ok.mp hr
      obtain ⟨rfl, rfl⟩ := pure_eq_ok.mp hr
      obtain ⟨hd, us, cs, ns, rfl, hu, hs, hn, hf, hv⟩ := spaced_eq_ok hp he hl hx
      obtain ⟨hz, vs', rfl, hvs⟩ := ih hd hv hxs
      refine ⟨hz, us ++ (cs ++ (ns ++ vs')), by simp, ?_⟩
      simp only [ahead_append] at hne hl hu hs hv
      exact .cons hi (by simpa using hne) (by simpa using hl) (by simpa using hu)
        (by simpa using hs) hn hf
        hv hvs

theorem closedBy_eq_ok {p : Parser s.Carrier} {lines : Bool} {close : Kind} (hi : c.Listed)
    (hp : c.Recognized p) (hc : close ≠ .eof) {xs : List s.Carrier} (he : Ended ts)
    (hl : lines = true → ahead ts .eof ≠ .newline)
    (h : closedBy close (spaced lines p) ts = .ok xs rest) :
    Ended rest ∧ ∃ us, ts = us ++ rest ∧ Spells (.items close lines c) xs us (ahead rest .eof) := by
  obtain ⟨_, us, hg, hr⟩ := bind_eq_ok.mp h
  cases hg
  obtain ⟨ys, vs, hx, hr⟩ := bind_eq_ok.mp hr
  rw [discard_bind] at hr
  obtain ⟨t, ws, hm, hr⟩ := bind_eq_ok.mp hr
  obtain ⟨rfl, rfl⟩ := pure_eq_ok.mp hr
  exact itemsUntil_eq_ok hi hp hc he hl hx hm

theorem recognized_parameters : Phrase.parameters.Recognized parameters := by
  intro ts a rest he h
  exact closedBy_eq_ok .name recognized_name (by decide) he (by simp) h

theorem bracketItems_eq_ok {p : Parser s.Carrier} {close : Kind}
    (hi : c.Listed) (hp : c.Recognized p) (hc : close ≠ .eof) {xs : List s.Carrier} (he : Ended ts)
    (h : bracketItems close p ts = .ok xs rest) :
    Ended rest ∧ ∃ ns us, ts = ns ++ (us ++ rest) ∧ (∀ n ∈ ns, n.kind = .newline) ∧
      ahead us (ahead rest .eof) ≠ .newline ∧
      Spells (.items close true c) xs us (ahead rest .eof) := by
  rw [bracketItems_eq] at h
  obtain ⟨_, us, hs, hr⟩ := bind_eq_ok.mp h
  obtain ⟨ns, rfl, hn, ha, hd⟩ := skipNewlines_eq_ok he hs
  obtain ⟨hz, us, rfl, hu⟩ := closedBy_eq_ok hi hp hc hd (fun _ => ha) hr
  exact ⟨hz, ns, us, rfl, hn, by simpa using ha, hu⟩

section Expressions

variable {E U : Parser Node} (hE : Phrase.expression.Recognized E)
  (hU : (Phrase.tier 0).Recognized U)

include hE

theorem recognized_arguments : Phrase.arguments.Recognized (closedBy .rparen (commaAfter E)) := by
  intro ts a rest he h
  exact closedBy_eq_ok .expression hE (by decide) he (by simp) h

theorem dictKey_eq_ok {key : Node} (he : Ended ts) (h : dictKey E ts = .ok key rest) :
    Ended rest ∧ ((∃ x, ts = x :: rest ∧ x.kind = .identifier ∧ key = .string (.text x.text)) ∨
      ∃ us, ts = us ++ rest ∧ Spells .expression key us (ahead rest .eof) ∧
      ahead ts .eof ≠ .identifier) := by
  obtain ⟨t, us, hc, hr⟩ := bind_eq_ok.mp h
  obtain ⟨rfl, tl, rfl⟩ := current_eq_ok hc
  split at hr
  · next hk =>
    rw [discard_bind] at hr
    obtain ⟨u, vs, ha, hr⟩ := bind_eq_ok.mp hr
    obtain ⟨rfl, rfl⟩ := pure_eq_ok.mp hr
    obtain ⟨rfl, rfl, hd⟩ := advance_eq_ok he (by simp [hk]) ha
    exact ⟨hd, .inl ⟨u, rfl, hk, rfl⟩⟩
  · next hk =>
    obtain ⟨hd, us, hs, hu⟩ := hE _ _ _ he hr
    exact ⟨hd, .inr ⟨us, hs, hu, hk⟩⟩

theorem recognized_dictPair : Phrase.pair.Recognized (dictPair E) := by
  intro ts a rest he h
  unfold dictPair at h
  simp only [discard_bind] at h
  obtain ⟨key, us, hk, h⟩ := bind_eq_ok.mp h
  obtain ⟨c, vs, hc, h⟩ := bind_eq_ok.mp h
  obtain ⟨v, ws, hv, h⟩ := bind_eq_ok.mp h
  obtain ⟨rfl, rfl⟩ := pure_eq_ok.mp h
  obtain ⟨he₁, hkey⟩ := dictKey_eq_ok hE he hk
  obtain ⟨rfl, hck, he₂⟩ := expect_eq_ok he₁ (by decide) hc
  obtain ⟨he₃, vs, rfl, hvs⟩ := hE _ _ _ he₂ hv
  refine ⟨he₃, ?_⟩
  obtain ⟨x, rfl, hx, rfl⟩ | ⟨us, rfl, hus, hi⟩ := hkey
  · exact ⟨x :: c :: vs, rfl, .named hx hck hvs⟩
  · simp only [ahead_append, ahead_cons, hck] at hus hi
    exact ⟨us ++ c :: vs, by simp, .keyed hus hi hck hvs⟩

theorem enclosed_eq_ok {close : Kind} {g : Node → β} {b : β} (hc : close ≠ .eof) (he : Ended ts)
    (h : (E >>= fun e => expect close >>= fun _ => pure (g e)) ts = .ok b rest) :
    Ended rest ∧ ∃ us e t, ts = us ++ t :: rest ∧ Spells .expression e us close ∧ t.kind = close ∧
      b = g e := by
  obtain ⟨e, us, hx, h⟩ := bind_eq_ok.mp h
  obtain ⟨t, vs, ht, h⟩ := bind_eq_ok.mp h
  obtain ⟨rfl, rfl⟩ := pure_eq_ok.mp h
  obtain ⟨he₁, us, rfl, hus⟩ := hE _ _ _ he hx
  obtain ⟨rfl, hk, he₂⟩ := expect_eq_ok he₁ hc ht
  rw [ahead_cons, hk] at hus
  exact ⟨he₂, us, e, t, rfl, hus, hk, rfl⟩

theorem parenthesized_eq_ok {o : Token} {e : Node} (ho : o.kind = .lparen) (he : Ended ts)
    (h : parenthesized E ts = .ok e rest) :
    Ended rest ∧ ∃ us, ts = us ++ rest ∧ Spells .primary e (o :: us) (ahead rest .eof) := by
  unfold parenthesized at h
  simp only [discard_bind] at h
  obtain ⟨k, us, hk, h₁⟩ := bind_eq_ok.mp h
  obtain ⟨rfl, rfl⟩ := currentKind_eq_ok hk
  split at h₁
  · obtain ⟨ps, vs, hps, h₂⟩ := bind_eq_ok.mp h₁
    obtain ⟨b, ws, hb, h₃⟩ := bind_eq_ok.mp h₂
    obtain ⟨he₁, us, rfl, hus⟩ := recognized_parameters _ _ _ he hps
    obtain ⟨he₂, ⟨rfl, a, rfl, ha⟩ | ⟨rfl, rfl, ha⟩⟩ := accept_eq_ok he₁ (by decide) hb
    · obtain ⟨x, xs, hx, h₄⟩ := bind_eq_ok.mp h₃
      obtain ⟨rfl, rfl⟩ := pure_eq_ok.mp h₄
      obtain ⟨he₃, vs, rfl, hvs⟩ := hE _ _ _ he₂ hx
      rw [ahead_cons, ha] at hus
      exact ⟨he₃, us ++ a :: vs, by simp, .lambda ho hus ha hvs⟩
    · obtain ⟨he₃, vs, x, t, rfl, hvs, ht, rfl⟩ := enclosed_eq_ok hE (by decide) he₂ h₃
      simp only [ahead_append, ahead_cons, ht] at hus ha
      exact ⟨he₃, us ++ (vs ++ [t]), by simp, .skipped ho hus ha hvs ht⟩
  · next hne =>
    obtain ⟨he₃, vs, x, t, rfl, hvs, ht, rfl⟩ := enclosed_eq_ok hE (by decide) he h₁
    simp only [ahead_append, ahead_cons, ht, Bool.or_eq_true, decide_eq_true_eq, not_or] at hne
    exact ⟨he₃, vs ++ [t], by simp, .parenthesized ho hvs hne.1 ht⟩

theorem recognized_primaryOf : Phrase.primary.Recognized (primaryOf E) := by
  intro ts a rest he h
  unfold primaryOf at h
  obtain ⟨t, us, hc, h₁⟩ := bind_eq_ok.mp h
  obtain ⟨rfl, tl, rfl⟩ := current_eq_ok hc
  cases hk : t.kind with
  | number | string | trueWord | falseWord | nullWord | identifier =>
    simp only [hk, discard_bind] at h₁
    obtain ⟨hd, h₂⟩ := advance_bind_eq_ok he (by simp [hk]) h₁
    obtain ⟨rfl, rfl⟩ := pure_eq_ok.mp h₂
    exact ⟨hd, [t], rfl, .leaf (by simp [leaf?, hk])⟩
  | lparen =>
    simp only [hk, discard_bind] at h₁
    obtain ⟨hd, h₂⟩ := advance_bind_eq_ok he (by simp [hk]) h₁
    obtain ⟨hr, us, rfl, hus⟩ := parenthesized_eq_ok hE hk hd h₂
    exact ⟨hr, t :: us, rfl, hus⟩
  | lbracket =>
    simp only [hk, discard_bind] at h₁
    obtain ⟨hd, h₂⟩ := advance_bind_eq_ok he (by simp [hk]) h₁
    obtain ⟨xs, vs, hx, h₃⟩ := bind_eq_ok.mp h₂
    obtain ⟨rfl, rfl⟩ := pure_eq_ok.mp h₃
    obtain ⟨hr, ns, us, rfl, hn, ha, hus⟩ := bracketItems_eq_ok .expression hE (by decide) hd hx
    exact ⟨hr, t :: (ns ++ us), by simp, .list hk hn ha hus⟩
  | lbrace =>
    simp only [hk, discard_bind] at h₁
    obtain ⟨hd, h₂⟩ := advance_bind_eq_ok he (by simp [hk]) h₁
    obtain ⟨xs, vs, hx, h₃⟩ := bind_eq_ok.mp h₂
    obtain ⟨rfl, rfl⟩ := pure_eq_ok.mp h₃
    obtain ⟨hr, ns, us, rfl, hn, ha, hus⟩ :=
      bracketItems_eq_ok .pair (recognized_dictPair hE) (by decide) hd hx
    exact ⟨hr, t :: (ns ++ us), by simp, .dict hk hn ha hus⟩
  | arrow =>
    simp only [hk, discard_bind] at h₁
    obtain ⟨hd, h₂⟩ := advance_bind_eq_ok he (by simp [hk]) h₁
    obtain ⟨x, vs, hx, h₃⟩ := bind_eq_ok.mp h₂
    obtain ⟨rfl, rfl⟩ := pure_eq_ok.mp h₃
    obtain ⟨hr, us, rfl, hus⟩ := hE _ _ _ hd hx
    exact ⟨hr, t :: us, rfl, .thunk hk hus⟩
  | _ =>
    simp only [hk] at h₁
    cases h₁

/-- What one access adds to a base that has been read. -/
theorem access?_eq_ok {e : Node} {x : Option Node} {bs : List Token}
    (hb : Spells .spine e bs (ahead ts .eof)) (he : Ended ts) (h : access? E e ts = .ok x rest) :
    Ended rest ∧ ((x = none ∧ rest = ts ∧ (ahead ts .eof).opensAccess = false) ∨
      ∃ e' us, x = some e' ∧ ts = us ++ rest ∧ Spells .spine e' (bs ++ us) (ahead rest .eof)) := by
  unfold access? at h
  simp only [discard_bind] at h
  obtain ⟨b, vs, hb₁, h₁⟩ := bind_eq_ok.mp h
  obtain ⟨he₁, ⟨rfl, d, rfl, hd⟩ | ⟨rfl, rfl, hd⟩⟩ := accept_eq_ok he (by decide) hb₁
  · obtain ⟨y, ws, hy, h₂⟩ := bind_eq_ok.mp h₁
    obtain ⟨rfl, rfl⟩ := pure_eq_ok.mp h₂
    obtain ⟨rfl, hk, he₂⟩ := expect_eq_ok he₁ (by decide) hy
    rw [ahead_cons, hd] at hb
    exact ⟨he₂, .inr ⟨_, [d, y], rfl, rfl, .member hb hd hk⟩⟩
  obtain ⟨b, vs, hb₂, h₂⟩ := bind_eq_ok.mp h₁
  obtain ⟨he₂, ⟨rfl, o, rfl, ho⟩ | ⟨rfl, rfl, ho⟩⟩ := accept_eq_ok he (by decide) hb₂
  · obtain ⟨xs, ws, hx, h₃⟩ := bind_eq_ok.mp h₂
    obtain ⟨rfl, rfl⟩ := pure_eq_ok.mp h₃
    obtain ⟨he₃, us, rfl, hus⟩ := recognized_arguments hE _ _ _ he₂ hx
    rw [ahead_cons, ho] at hb
    exact ⟨he₃, .inr ⟨_, o :: us, rfl, rfl, .call hb ho hus⟩⟩
  obtain ⟨b, vs, hb₃, h₃⟩ := bind_eq_ok.mp h₂
  obtain ⟨he₃, ⟨rfl, o, rfl, hl⟩ | ⟨rfl, rfl, hl⟩⟩ := accept_eq_ok he (by decide) hb₃
  · obtain ⟨he₄, us, i, t, rfl, hus, ht, rfl⟩ := enclosed_eq_ok hE (by decide) he₃ h₃
    rw [ahead_cons, hl] at hb
    exact ⟨he₄, .inr ⟨_, o :: (us ++ [t]), rfl, by simp, .index hb hl hus ht⟩⟩
  · obtain ⟨rfl, rfl⟩ := pure_eq_ok.mp h₃
    exact ⟨he₃, .inl ⟨rfl, rfl, by simp [Kind.opensAccess, hd, ho, hl]⟩⟩

theorem accesses_eq_ok {n : Nat} {e a : Node} {bs : List Token}
    (hb : Spells .spine e bs (ahead ts .eof)) (he : Ended ts) (h : accesses E n e ts = .ok a rest) :
    Ended rest ∧ ∃ us, ts = us ++ rest ∧ Spells .spine a (bs ++ us) (ahead rest .eof) ∧
      (ahead rest .eof).opensAccess = false := by
  induction n generalizing e bs ts with
  | zero =>
    obtain ⟨x, vs, hx, h₁⟩ := bind_eq_ok.mp h
    obtain ⟨he₁, ⟨rfl, rfl, hk⟩ | ⟨e', us, rfl, rfl, hus⟩⟩ := access?_eq_ok hE hb he hx
    · obtain ⟨rfl, rfl⟩ := pure_eq_ok.mp h₁
      exact ⟨he₁, [], rfl, by simpa using hb, hk⟩
    · cases h₁
  | succ n ih =>
    obtain ⟨x, vs, hx, h₁⟩ := bind_eq_ok.mp h
    obtain ⟨he₁, ⟨rfl, rfl, hk⟩ | ⟨e', us, rfl, rfl, hus⟩⟩ := access?_eq_ok hE hb he hx
    · obtain ⟨rfl, rfl⟩ := pure_eq_ok.mp h₁
      exact ⟨he₁, [], rfl, by simpa using hb, hk⟩
    · obtain ⟨he₂, ws, rfl, hws, hk⟩ := ih hus he₁ h₁
      exact ⟨he₂, us ++ ws, by simp, by simpa using hws, hk⟩

theorem recognized_postfixOf : (Phrase.tier 0).Recognized (postfixOf E) := by
  intro ts a rest he h
  obtain ⟨e, vs, hx, h₁⟩ := bind_eq_ok.mp h
  obtain ⟨m, ws, hg, h₂⟩ := bind_eq_ok.mp h₁
  cases hg
  obtain ⟨he₁, bs, rfl, hb⟩ := recognized_primaryOf hE _ _ _ he hx
  obtain ⟨he₂, us, rfl, hus, hk⟩ := accesses_eq_ok hE (.base hb) he₁ h₂
  exact ⟨he₂, bs ++ us, by simp, .accessed hus hk⟩

omit hE

theorem operators_eq_ok {m n : Nat} {l a : Node} {bs : List Token}
    (hU : (Phrase.tier m).Recognized U) (hb : Spells (.chain m) l bs (ahead ts .eof))
    (he : Ended ts) (h : operators (operatorsAt m) U n l ts = .ok a rest) :
    Ended rest ∧ ∃ us, ts = us ++ rest ∧ Spells (.chain m) a (bs ++ us) (ahead rest .eof) ∧
      ahead rest .eof ∉ operatorsAt m := by
  induction n generalizing l bs ts with
  | zero =>
    obtain ⟨k, vs, hk, h₁⟩ := bind_eq_ok.mp h
    obtain ⟨rfl, rfl⟩ := currentKind_eq_ok hk
    split at h₁
    · cases h₁
    · next hno =>
      obtain ⟨rfl, rfl⟩ := pure_eq_ok.mp h₁
      exact ⟨he, [], rfl, by simpa using hb, by simpa using hno⟩
  | succ n ih =>
    obtain ⟨o, vs, ho, h₁⟩ := bind_eq_ok.mp h
    obtain ⟨rfl, tl, rfl⟩ := current_eq_ok ho
    split at h₁
    · next hno =>
      obtain ⟨rfl, rfl⟩ := pure_eq_ok.mp h₁
      exact ⟨he, [], rfl, by simpa using hb, by simpa using hno⟩
    · next hmem =>
      simp only [Bool.not_eq_true, Bool.not_eq_false', List.contains_eq_mem, decide_eq_true_eq]
        at hmem
      have hne : o.kind ≠ .eof := by
        intro hk
        rw [hk] at hmem
        exact not_mem_operatorsAt (by decide) m hmem
      rw [discard_bind] at h₁
      obtain ⟨he₁, h₂⟩ := advance_bind_eq_ok he hne h₁
      obtain ⟨r, ws, hr, h₃⟩ := bind_eq_ok.mp h₂
      obtain ⟨he₂, us, rfl, hus⟩ := hU _ _ _ he₁ hr
      obtain ⟨he₃, ws', rfl, hws, hk⟩ := ih (.binary hb hmem hus) he₂ h₃
      exact ⟨he₃, o :: (us ++ ws'), by simp, by simpa using hws, hk⟩

include hU

theorem recognized_tierOf (m : Nat) : (Phrase.tier m).Recognized (tierOf U m) := by
  induction m with
  | zero => exact hU
  | succ m ih =>
    intro ts a rest he h
    obtain ⟨l, vs, hl, h₁⟩ := bind_eq_ok.mp h
    obtain ⟨n, ws, hg, h₂⟩ := bind_eq_ok.mp h₁
    cases hg
    obtain ⟨he₁, bs, rfl, hb⟩ := ih _ _ _ he hl
    obtain ⟨he₂, us, rfl, hus, hk⟩ := operators_eq_ok ih (.operand hb) he₁ h₂
    exact ⟨he₂, bs ++ us, by simp, .level hus hk⟩

include hE

theorem recognized_ternaryOf : Phrase.ternary.Recognized (ternaryOf E U) := by
  intro ts a rest he h
  unfold ternaryOf at h
  simp only [discard_bind] at h
  rw [disjunctionOf_eq_tierOf] at h
  obtain ⟨c, vs, hc, h₁⟩ := bind_eq_ok.mp h
  obtain ⟨b, ws, hb, h₂⟩ := bind_eq_ok.mp h₁
  obtain ⟨he₁, us, rfl, hus⟩ := recognized_tierOf hU _ _ _ _ he hc
  obtain ⟨he₂, ⟨rfl, q, rfl, hq⟩ | ⟨rfl, rfl, hq⟩⟩ := accept_eq_ok he₁ (by decide) hb
  · obtain ⟨x, xs, hx, h₃⟩ := bind_eq_ok.mp h₂
    obtain ⟨s, ss, hs, h₄⟩ := bind_eq_ok.mp h₃
    obtain ⟨y, ys, hy, h₅⟩ := bind_eq_ok.mp h₄
    obtain ⟨rfl, rfl⟩ := pure_eq_ok.mp h₅
    obtain ⟨he₃, vs, rfl, hvs⟩ := hE _ _ _ he₂ hx
    obtain ⟨rfl, hsk, he₄⟩ := expect_eq_ok he₃ (by decide) hs
    obtain ⟨he₅, ws, rfl, hws⟩ := hE _ _ _ he₄ hy
    rw [ahead_cons, hq] at hus
    rw [ahead_cons, hsk] at hvs
    exact ⟨he₅, us ++ q :: (vs ++ s :: ws), by simp, .choice hus hq hvs hsk hws⟩
  · obtain ⟨rfl, rfl⟩ := pure_eq_ok.mp h₂
    exact ⟨he₂, us, rfl, .operation hus hq⟩

theorem recognized_assignmentOf : Phrase.expression.Recognized (assignmentOf E U) := by
  intro ts a rest he h
  unfold assignmentOf at h
  obtain ⟨t, vs, ht, h₁⟩ := bind_eq_ok.mp h
  obtain ⟨k, ws, hk, h₂⟩ := bind_eq_ok.mp h₁
  obtain ⟨rfl, rfl⟩ := currentKind_eq_ok hk
  obtain ⟨he₁, us, rfl, hus⟩ := recognized_ternaryOf hE hU _ _ _ he ht
  split at h₂
  · next hne =>
    obtain ⟨rfl, rfl⟩ := pure_eq_ok.mp h₂
    exact ⟨he₁, us, rfl, .value hus hne⟩
  · next hno =>
    have heq : ahead ws .eof = .assign := by simpa using hno
    cases ws with
    | nil => exact absurd rfl he₁.ne_nil
    | cons o ws =>
      rw [ahead_cons] at heq
      rw [ahead_cons, heq] at hus
      split at h₂
      · next name =>
        rw [discard_bind] at h₂
        obtain ⟨he₂, h₃⟩ := advance_bind_eq_ok he₁ (by simp [heq]) h₂
        obtain ⟨v, xs, hv, h₄⟩ := bind_eq_ok.mp h₃
        obtain ⟨rfl, rfl⟩ := pure_eq_ok.mp h₄
        obtain ⟨he₃, vs, rfl, hvs⟩ := hE _ _ _ he₂ hv
        exact ⟨he₃, us ++ o :: vs, by simp, .assignment hus heq hvs⟩
      · cases h₂

end Expressions

theorem recognized_within (n : Nat) : Phrase.expression.Recognized (expressionWithin n) ∧
    (Phrase.tier 0).Recognized (unaryWithin n) := by
  induction n with
  | zero =>
    constructor
    · intro ts a rest _ h
      rw [expressionWithin] at h
      cases h
    · intro ts a rest _ h
      rw [unaryWithin] at h
      cases h
  | succ n ih =>
    obtain ⟨hE, hU⟩ := ih
    constructor
    · rw [expressionWithin]
      exact recognized_assignmentOf hE hU
    · intro ts a rest he h
      rw [unaryWithin] at h
      obtain ⟨o, us, hc, h₁⟩ := bind_eq_ok.mp h
      obtain ⟨rfl, tl, rfl⟩ := current_eq_ok hc
      split at h₁
      · next ho =>
        simp only [Bool.or_eq_true, decide_eq_true_eq] at ho
        rw [discard_bind] at h₁
        obtain ⟨he₁, h₂⟩ := advance_bind_eq_ok he (by rcases ho with ho | ho <;> simp [ho]) h₁
        obtain ⟨x, vs, hx, h₃⟩ := bind_eq_ok.mp h₂
        obtain ⟨rfl, rfl⟩ := pure_eq_ok.mp h₃
        obtain ⟨he₂, us, rfl, hus⟩ := hU _ _ _ he₁ hx
        exact ⟨he₂, o :: us, rfl, .unary ho hus⟩
      · split at h₁
        · next ho =>
          rw [discard_bind] at h₁
          obtain ⟨he₁, h₂⟩ := advance_bind_eq_ok he (by simp [ho]) h₁
          obtain ⟨x, vs, hx, h₃⟩ := bind_eq_ok.mp h₂
          obtain ⟨rfl, rfl⟩ := pure_eq_ok.mp h₃
          obtain ⟨he₂, us, rfl, hus⟩ := hU _ _ _ he₁ hx
          exact ⟨he₂, o :: us, rfl, .await ho hus⟩
        · exact recognized_postfixOf hE _ _ _ he h₁

/-- What is read as an expression is spelled as one. -/
theorem recognized_expression : Phrase.expression.Recognized expression :=
  fun ts => (recognized_within (depthFor ts)).1 ts

variable {n : Node}

/-- The tokens are read as one expression up to the end mark. -/
def Whole (us : List Token) (n : Node) : Prop :=
  ∀ e, e.kind = .eof → expression (us ++ [e]) = .ok n [e]

theorem spells_of_eq_ok {e : Token} (he : e.kind = .eof) (h : expression (us ++ [e]) = .ok n [e]) :
    Spells .expression n us .eof := by
  obtain ⟨-, vs, hv, hs⟩ := recognized_expression _ _ _ ⟨us, e, rfl, he⟩ h
  rw [ahead_cons, he] at hs
  rwa [List.append_cancel_right hv]

theorem whole_iff_spells : Whole us n ↔ Spells .expression n us .eof := by
  constructor
  · intro h
    exact spells_of_eq_ok (e := ⟨.eof, .null, ⟨0, 0⟩⟩) rfl (h _ rfl)
  · intro h e he
    exact h.reads e [] he

theorem whole_leaf {o : Token} (h : leaf? o = some n) : Whole [o] n :=
  whole_iff_spells.mpr (.ofPrimary (.leaf h) rfl)

end FloScript.Parser
