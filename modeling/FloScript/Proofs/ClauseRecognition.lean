import FloScript.Proofs.ClauseAcceptance

/-! Every clause that is read is composed, and so is every program. -/
namespace FloScript.Parser

variable {α : Type} {S : Parser Node} {k word close : Kind} {ts us rest : List Token} {n : Nat}

/-- What the parser reads stands in the relation to the tokens it takes and to the kind of the next
one. -/
def Recognizes (R : α → List Token → Kind → Prop) (p : Parser α) : Prop :=
  ∀ ts a rest, Ended ts → p ts = .ok a rest → Ended rest ∧ ∃ us, ts = us ++ rest ∧
    R a us (ahead rest .eof)

section Parts

theorem recognizes_optionalName : Recognizes NamePart optionalName := by
  intro ts a rest he h
  obtain ⟨t, us, hc, h₁⟩ := bind_eq_ok.mp h
  obtain ⟨rfl, tl, rfl⟩ := current_eq_ok hc
  split at h₁
  · next hk =>
    rw [discard_bind] at h₁
    obtain ⟨hd, h₂⟩ := advance_bind_eq_ok he (by simp [hk]) h₁
    obtain ⟨rfl, rfl⟩ := pure_eq_ok.mp h₂
    exact ⟨hd, [t], rfl, .given hk⟩
  · next hk =>
    obtain ⟨rfl, rfl⟩ := pure_eq_ok.mp h₁
    exact ⟨he, [], rfl, .absent hk⟩

theorem recognizes_optionalItems {s : Shape} {item : Phrase s}
    {p : Parser s.Carrier} (hi : item.Listed) (hp : item.Recognized p) :
    Recognizes (ItemsPart item) (optionalItems p) := by
  intro ts a rest he h
  obtain ⟨b, us, hb, h₁⟩ := bind_eq_ok.mp h
  obtain ⟨hd, ⟨rfl, o, rfl, ho⟩ | ⟨rfl, rfl, ho⟩⟩ := accept_eq_ok he (by decide) hb
  · have h₂ : closedBy .rparen (spaced false p) us = .ok a rest := h₁
    obtain ⟨hr, us, rfl, hus⟩ := closedBy_eq_ok hi hp (by decide) hd (by simp) h₂
    exact ⟨hr, o :: us, rfl, .given ho hus⟩
  · obtain ⟨rfl, rfl⟩ := pure_eq_ok.mp h₁
    exact ⟨hd, [], rfl, .absent ho⟩

theorem recognizes_returnStatement : Recognizes Returns returnStatement := by
  intro ts a rest he h
  unfold returnStatement at h
  rw [discard_bind] at h
  obtain ⟨r, us, hr, h₁⟩ := bind_eq_ok.mp h
  obtain ⟨rfl, hk, hd⟩ := expect_eq_ok he (by decide) hr
  obtain ⟨j, vs, hj, h₂⟩ := bind_eq_ok.mp h₁
  obtain ⟨rfl, rfl⟩ := currentKind_eq_ok hj
  split at h₂
  · next hend =>
    obtain ⟨rfl, rfl⟩ := pure_eq_ok.mp h₂
    simp only [Bool.or_eq_true, decide_eq_true_eq, or_assoc] at hend
    exact ⟨hd, [r], rfl, .nothing hk hend⟩
  · obtain ⟨e, ws, hx, h₃⟩ := bind_eq_ok.mp h₂
    obtain ⟨rfl, rfl⟩ := pure_eq_ok.mp h₃
    obtain ⟨hz, us, rfl, hus⟩ := recognized_expression _ _ _ hd hx
    exact ⟨hz, r :: us, rfl, .value hk hus⟩

theorem recognizes_branch : Recognizes ArrowBranch branch := by
  intro ts a rest he h
  obtain ⟨j, vs, hj, h₁⟩ := bind_eq_ok.mp h
  obtain ⟨rfl, rfl⟩ := currentKind_eq_ok hj
  split at h₁
  · obtain ⟨r, ws, hr, h₂⟩ := bind_eq_ok.mp h₁
    obtain ⟨rfl, rfl⟩ := pure_eq_ok.mp h₂
    obtain ⟨hd, us, rfl, hus⟩ := recognizes_returnStatement _ _ _ he hr
    exact ⟨hd, us, rfl, .returning hus⟩
  · obtain ⟨e, ws, hx, h₂⟩ := bind_eq_ok.mp h₁
    obtain ⟨rfl, rfl⟩ := pure_eq_ok.mp h₂
    obtain ⟨hd, us, rfl, hus⟩ := recognized_expression _ _ _ he hx
    exact ⟨hd, us, rfl, .expression hus⟩

theorem recognizes_arrowElse : Recognizes ArrowElse arrowElse := by
  intro ts a rest he h
  obtain ⟨_, us, hs, h₁⟩ := bind_eq_ok.mp h
  obtain ⟨ns, rfl, hn, ha, hd⟩ := skipNewlines_eq_ok he hs
  obtain ⟨b, vs, hb, h₂⟩ := bind_eq_ok.mp h₁
  obtain ⟨he₁, ⟨rfl, l, rfl, hl⟩ | ⟨rfl, rfl, hl⟩⟩ := accept_eq_ok hd (by decide) hb
  · obtain ⟨b, ws, hb, h₃⟩ := bind_eq_ok.mp h₂
    obtain ⟨he₂, ⟨rfl, o, rfl, ho⟩ | ⟨rfl, rfl, ho⟩⟩ := accept_eq_ok he₁ (by decide) hb
    · obtain ⟨x, xs, hx, h₄⟩ := bind_eq_ok.mp h₃
      obtain ⟨rfl, rfl⟩ := pure_eq_ok.mp h₄
      obtain ⟨hz, us, rfl, hus⟩ := recognizes_branch _ _ _ he₂ hx
      exact ⟨hz, ns ++ l :: o :: us, by simp, .given hn hl ho hus⟩
    · obtain ⟨rfl, rfl⟩ := pure_eq_ok.mp h₃
      exact ⟨he₂, ns ++ [l], by simp, .dropped hn hl ho⟩
  · obtain ⟨rfl, rfl⟩ := pure_eq_ok.mp h₂
    exact ⟨he₁, ns, rfl, .absent hn ha hl⟩

/-- As many rounds as there are tokens are enough to read all decorators. -/
theorem decorators_eq_ok {ds : List Node} (he : Ended ts) (hl : ts.length ≤ n)
    (h : decorators n ts = .ok ds rest) :
    Ended rest ∧ ∃ us, ts = us ++ rest ∧ Decorators ds us (ahead rest .eof) := by
  induction n generalizing ts ds with
  | zero => exact absurd (List.length_eq_zero_iff.mp (Nat.le_zero.mp hl)) he.ne_nil
  | succ n ih =>
    obtain ⟨b, us, hb, h₁⟩ := bind_eq_ok.mp h
    obtain ⟨he₁, ⟨rfl, a, rfl, ha⟩ | ⟨rfl, rfl, ha⟩⟩ := accept_eq_ok he (by decide) hb
    · obtain ⟨d, vs, hd, h₂⟩ := bind_eq_ok.mp h₁
      rw [decoratorBody_eq] at hd
      obtain ⟨x, ws, hx, h₃⟩ := bind_eq_ok.mp hd
      obtain ⟨rfl, hk, he₂⟩ := expect_eq_ok he₁ (by decide) hx
      obtain ⟨args, zs, hargs, h₄⟩ := bind_eq_ok.mp h₃
      obtain ⟨he₃, us, rfl, hus⟩ :=
        recognizes_optionalItems .expression recognized_expression _ _ _ he₂ hargs
      obtain ⟨_, ys, hy, h₅⟩ := bind_eq_ok.mp h₄
      obtain ⟨rfl, rfl⟩ := pure_eq_ok.mp h₅
      obtain ⟨ns, rfl, hn, hnl, he₄⟩ := skipNewlines_eq_ok he₃ hy
      obtain ⟨ds', xs', hds, h₆⟩ := bind_eq_ok.mp h₂
      obtain ⟨rfl, rfl⟩ := pure_eq_ok.mp h₆
      have hlen : ys.length ≤ n := by
        simp only [List.length_cons, List.length_append] at hl
        omega
      obtain ⟨hz, vs, rfl, hvs⟩ := ih he₄ hlen hds
      refine ⟨hz, a :: x :: (us ++ (ns ++ vs)), by simp, ?_⟩
      rw [← List.append_assoc, ahead_append] at hus
      rw [ahead_append] at hnl
      exact .cons ha hk hus hn hnl hvs
    · obtain ⟨rfl, rfl⟩ := pure_eq_ok.mp h₁
      exact ⟨he₁, [], rfl, .nil ha⟩

end Parts

section Statements

variable (hS : Recognizes (Composes .statement) S)

include hS

/-- Lines end in front of a token of the closing kind. -/
theorem lines_eq_ok {ss : List Node} (he : Ended ts) (ha : ahead ts .eof ≠ .newline)
    (h : itemsUntil close (lineOf S) n ts = .ok ss rest) :
    Ended rest ∧ ahead rest .eof = close ∧ ∃ us, ts = us ++ rest ∧
      Composes (.lines close) ss us close := by
  induction n generalizing ts ss with
  | zero =>
    unfold itemsUntil at h
    obtain ⟨k, us, hk, h₁⟩ := bind_eq_ok.mp h
    obtain ⟨rfl, rfl⟩ := currentKind_eq_ok hk
    split at h₁
    · next hc =>
      obtain ⟨rfl, rfl⟩ := pure_eq_ok.mp h₁
      exact ⟨he, hc, [], rfl, .nil⟩
    · cases h₁
  | succ n ih =>
    unfold itemsUntil at h
    obtain ⟨k, us, hk, h₁⟩ := bind_eq_ok.mp h
    obtain ⟨rfl, rfl⟩ := currentKind_eq_ok hk
    split at h₁
    · next hc =>
      obtain ⟨rfl, rfl⟩ := pure_eq_ok.mp h₁
      exact ⟨he, hc, [], rfl, .nil⟩
    · obtain ⟨s, vs, hline, h₂⟩ := bind_eq_ok.mp h₁
      obtain ⟨ss', ws, hss, h₃⟩ := bind_eq_ok.mp h₂
      obtain ⟨rfl, rfl⟩ := pure_eq_ok.mp h₃
      obtain ⟨s, xs, hs, h₄⟩ := bind_eq_ok.mp hline
      obtain ⟨_, ys, hy, h₅⟩ := bind_eq_ok.mp h₄
      obtain ⟨rfl, rfl⟩ := pure_eq_ok.mp h₅
      obtain ⟨he₁, us, rfl, hus⟩ := hS _ _ _ he hs
      obtain ⟨ns, rfl, hn, hnl, he₂⟩ := skipNewlines_eq_ok he₁ hy
      obtain ⟨hz, hc, vs, rfl, hvs⟩ := ih he₂ hnl hss
      rw [← List.append_assoc, ahead_append, hc] at hus
      rw [ahead_append, hc] at hnl
      exact ⟨hz, hc, us ++ (ns ++ vs), by simp, .cons hus hn hnl hvs⟩

theorem recognizes_blockOf : Recognizes (Composes .block) (blockOf S) := by
  intro ts a rest he h
  obtain ⟨b, us, hb, h₁⟩ := bind_eq_ok.mp h
  obtain ⟨he₁, ⟨rfl, o, rfl, ho⟩ | ⟨rfl, rfl, ho⟩⟩ := accept_eq_ok he (by decide) hb
  · obtain ⟨_, vs, hs, h₂⟩ := bind_eq_ok.mp h₁
    obtain ⟨ns, rfl, hn, hnl, he₂⟩ := skipNewlines_eq_ok he₁ hs
    obtain ⟨_, ws, hg, h₃⟩ := bind_eq_ok.mp h₂
    cases hg
    obtain ⟨ss, ws, hss, h₄⟩ := bind_eq_ok.mp h₃
    rw [discard_bind] at h₄
    obtain ⟨q, zs, hq, h₅⟩ := bind_eq_ok.mp h₄
    obtain ⟨rfl, rfl⟩ := pure_eq_ok.mp h₅
    obtain ⟨he₃, -, us, rfl, hus⟩ := lines_eq_ok hS he₂ hnl hss
    obtain ⟨rfl, hqk, he₄⟩ := expect_eq_ok he₃ (by decide) hq
    rw [ahead_append, ahead_cons, hqk] at hnl
    exact ⟨he₄, o :: (ns ++ (us ++ [q])), by simp, .braces ho hn hnl hus hqk⟩
  · obtain ⟨s, vs, hs, h₂⟩ := bind_eq_ok.mp h₁
    obtain ⟨rfl, rfl⟩ := pure_eq_ok.mp h₂
    obtain ⟨hd, us, rfl, hus⟩ := hS _ _ _ he₁ hs
    exact ⟨hd, us, rfl, .single hus (by simpa using ho)⟩

theorem recognizes_wordBlock (hw : word ≠ .eof) :
    Recognizes (Composes (.wordBlock word)) (wordBlock word S) := by
  intro ts a rest he h
  obtain ⟨_, us, hs, h₁⟩ := bind_eq_ok.mp h
  obtain ⟨ns, rfl, hn, hnl, he₁⟩ := skipNewlines_eq_ok he hs
  obtain ⟨b, vs, hb, h₂⟩ := bind_eq_ok.mp h₁
  obtain ⟨he₂, ⟨rfl, l, rfl, hl⟩ | ⟨rfl, rfl, hl⟩⟩ := accept_eq_ok he₁ hw hb
  · obtain ⟨ss, ws, hss, h₃⟩ := bind_eq_ok.mp h₂
    obtain ⟨rfl, rfl⟩ := pure_eq_ok.mp h₃
    obtain ⟨hd, us, rfl, hus⟩ := recognizes_blockOf hS _ _ _ he₂ hss
    exact ⟨hd, ns ++ l :: us, by simp, .after hn hl hus⟩
  · obtain ⟨rfl, rfl⟩ := pure_eq_ok.mp h₂
    exact ⟨he₂, ns, rfl, .without hn hnl hl⟩

theorem recognizes_catchOf : Recognizes (Composes .catcher) (catchOf S) := by
  intro ts a rest he h
  obtain ⟨_, us, hs, h₁⟩ := bind_eq_ok.mp h
  obtain ⟨ns, rfl, hn, hnl, he₁⟩ := skipNewlines_eq_ok he hs
  obtain ⟨b, vs, hb, h₂⟩ := bind_eq_ok.mp h₁
  obtain ⟨he₂, ⟨rfl, l, rfl, hl⟩ | ⟨rfl, rfl, hl⟩⟩ := accept_eq_ok he₁ (by decide) hb
  · obtain ⟨x, ws, hx, h₃⟩ := bind_eq_ok.mp h₂
    obtain ⟨ss, zs, hss, h₄⟩ := bind_eq_ok.mp h₃
    obtain ⟨rfl, rfl⟩ := pure_eq_ok.mp h₄
    obtain ⟨he₃, xs, rfl, hxs⟩ := recognizes_optionalName _ _ _ he₂ hx
    obtain ⟨hd, us, rfl, hus⟩ := recognizes_blockOf hS _ _ _ he₃ hss
    rw [ahead_append] at hxs
    exact ⟨hd, ns ++ l :: (xs ++ us), by simp, .caught hn hl hxs hus⟩
  · obtain ⟨rfl, rfl⟩ := pure_eq_ok.mp h₂
    exact ⟨he₂, ns, rfl, .uncaught hn hnl hl⟩

theorem recognizes_ifOf : Recognizes (Composes .form) (ifOf S) := by
  intro ts a rest he h
  unfold ifOf at h
  rw [discard_bind] at h
  obtain ⟨i, us, hi, h₁⟩ := bind_eq_ok.mp h
  obtain ⟨rfl, hik, he₁⟩ := expect_eq_ok he (by decide) hi
  obtain ⟨c, vs, hc, h₂⟩ := bind_eq_ok.mp h₁
  obtain ⟨he₂, cs, rfl, hcs⟩ := recognized_expression _ _ _ he₁ hc
  obtain ⟨b, ws, hb, h₃⟩ := bind_eq_ok.mp h₂
  obtain ⟨he₃, ⟨rfl, o, rfl, ho⟩ | ⟨rfl, rfl, ho⟩⟩ := accept_eq_ok he₂ (by decide) hb
  · obtain ⟨x, xs, hx, h₄⟩ := bind_eq_ok.mp h₃
    obtain ⟨no, ys, hno, h₅⟩ := bind_eq_ok.mp h₄
    obtain ⟨rfl, rfl⟩ := pure_eq_ok.mp h₅
    obtain ⟨he₄, us, rfl, hus⟩ := recognizes_branch _ _ _ he₃ hx
    obtain ⟨he₅, ds, rfl, hds⟩ := recognizes_arrowElse _ _ _ he₄ hno
    rw [ahead_cons, ho] at hcs
    rw [ahead_append] at hus
    exact ⟨he₅, i :: (cs ++ o :: (us ++ ds)), by simp, .arrowIf hik hcs ho hus hds⟩
  · obtain ⟨x, xs, hx, h₄⟩ := bind_eq_ok.mp h₃
    obtain ⟨no, ys, hno, h₅⟩ := bind_eq_ok.mp h₄
    obtain ⟨rfl, rfl⟩ := pure_eq_ok.mp h₅
    obtain ⟨he₄, us, rfl, hus⟩ := recognizes_blockOf hS _ _ _ he₃ hx
    obtain ⟨he₅, ds, rfl, hds⟩ := recognizes_wordBlock hS (by decide) _ _ _ he₄ hno
    rw [← List.append_assoc, ahead_append] at hcs ho
    rw [ahead_append] at hus
    exact ⟨he₅, i :: (cs ++ (us ++ ds)), by simp, .blockIf hik hcs ho hus hds⟩

theorem recognizes_whileOf : Recognizes (Composes .form) (whileOf S) := by
  intro ts a rest he h
  unfold whileOf at h
  rw [discard_bind] at h
  obtain ⟨w, us, hw, h₁⟩ := bind_eq_ok.mp h
  obtain ⟨rfl, hwk, he₁⟩ := expect_eq_ok he (by decide) hw
  obtain ⟨c, vs, hc, h₂⟩ := bind_eq_ok.mp h₁
  obtain ⟨ss, ws, hss, h₃⟩ := bind_eq_ok.mp h₂
  obtain ⟨rfl, rfl⟩ := pure_eq_ok.mp h₃
  obtain ⟨he₂, cs, rfl, hcs⟩ := recognized_expression _ _ _ he₁ hc
  obtain ⟨he₃, us, rfl, hus⟩ := recognizes_blockOf hS _ _ _ he₂ hss
  rw [ahead_append] at hcs
  exact ⟨he₃, w :: (cs ++ us), by simp, .whileLoop hwk hcs hus⟩

theorem recognizes_forOf : Recognizes (Composes .form) (forOf S) := by
  intro ts a rest he h
  unfold forOf at h
  rw [discard_bind] at h
  obtain ⟨f, us, hf, h₁⟩ := bind_eq_ok.mp h
  obtain ⟨rfl, hfk, he₁⟩ := expect_eq_ok he (by decide) hf
  obtain ⟨x, us, hx, h₂⟩ := bind_eq_ok.mp h₁
  obtain ⟨rfl, hxk, he₂⟩ := expect_eq_ok he₁ (by decide) hx
  obtain ⟨i, vs, hi, h₃⟩ := bind_eq_ok.mp h₂
  obtain ⟨ss, ws, hss, h₄⟩ := bind_eq_ok.mp h₃
  obtain ⟨rfl, rfl⟩ := pure_eq_ok.mp h₄
  obtain ⟨he₃, cs, rfl, hcs⟩ := recognized_expression _ _ _ he₂ hi
  obtain ⟨he₄, us, rfl, hus⟩ := recognizes_blockOf hS _ _ _ he₃ hss
  rw [ahead_append] at hcs
  exact ⟨he₄, f :: x :: (cs ++ us), by simp, .forLoop hfk hxk hcs hus⟩

theorem recognizes_tryOf : Recognizes (Composes .form) (tryOf S) := by
  intro ts a rest he h
  rw [tryOf_eq, discard_bind] at h
  obtain ⟨t, us, ht, h₁⟩ := bind_eq_ok.mp h
  obtain ⟨rfl, htk, he₁⟩ := expect_eq_ok he (by decide) ht
  obtain ⟨ss, vs, hss, h₂⟩ := bind_eq_ok.mp h₁
  obtain ⟨⟨x, c⟩, ws, hc, h₃⟩ := bind_eq_ok.mp h₂
  obtain ⟨f, xs, hf, h₄⟩ := bind_eq_ok.mp h₃
  obtain ⟨rfl, rfl⟩ := pure_eq_ok.mp h₄
  obtain ⟨he₂, us, rfl, hus⟩ := recognizes_blockOf hS _ _ _ he₁ hss
  obtain ⟨he₃, hs, rfl, hhs⟩ := recognizes_catchOf hS _ _ _ he₂ hc
  obtain ⟨he₄, fs, rfl, hfs⟩ := recognizes_wordBlock hS (by decide) _ _ _ he₃ hf
  rw [← List.append_assoc, ahead_append] at hus
  rw [ahead_append] at hhs
  exact ⟨he₄, t :: (us ++ (hs ++ fs)), by simp, .trying htk hus hhs hfs⟩

/-- No function of a program is marked as asynchronous, since no statement begins with that mark. -/
theorem functionOf_eq_ok {f : Node} (he : Ended ts) (hk : ahead ts .eof = .funcWord)
    (h : functionOf S ts = .ok f rest) :
    Ended rest ∧ ∃ us, ts = us ++ rest ∧ Composes .function f us (ahead rest .eof) := by
  rw [functionOf_eq] at h
  simp only [discard_bind] at h
  obtain ⟨b, us, hb, h₁⟩ := bind_eq_ok.mp h
  obtain ⟨he₁, ⟨-, u, rfl, hu⟩ | ⟨rfl, rfl, -⟩⟩ := accept_eq_ok he (by decide) hb
  · rw [ahead_cons, hu] at hk
    cases hk
  obtain ⟨w, us, hw, h₂⟩ := bind_eq_ok.mp h₁
  obtain ⟨rfl, hwk, he₂⟩ := expect_eq_ok he₁ (by decide) hw
  obtain ⟨x, vs, hx, h₃⟩ := bind_eq_ok.mp h₂
  obtain ⟨he₃, xs, rfl, hxs⟩ := recognizes_optionalName _ _ _ he₂ hx
  obtain ⟨ps, ws, hps, h₄⟩ := bind_eq_ok.mp h₃
  obtain ⟨he₄, us, rfl, hus⟩ := recognizes_optionalItems .name recognized_name _ _ _ he₃ hps
  obtain ⟨b, zs, hb, h₅⟩ := bind_eq_ok.mp h₄
  obtain ⟨he₅, ⟨rfl, a, rfl, ha⟩ | ⟨rfl, rfl, ha⟩⟩ := accept_eq_ok he₄ (by decide) hb
  · obtain ⟨e, ys, hy, h₆⟩ := bind_eq_ok.mp h₅
    obtain ⟨rfl, rfl⟩ := pure_eq_ok.mp h₆
    obtain ⟨he₆, vs, rfl, hvs⟩ := recognized_expression _ _ _ he₅ hy
    rw [ahead_cons, ha] at hus
    rw [ahead_append, ahead_cons, ha] at hxs
    exact ⟨he₆, w :: (xs ++ (us ++ a :: vs)), by simp, .arrowFunction hwk hxs hus ha hvs⟩
  · obtain ⟨ss, ys, hss, h₆⟩ := bind_eq_ok.mp h₅
    obtain ⟨rfl, rfl⟩ := pure_eq_ok.mp h₆
    obtain ⟨he₆, vs, rfl, hvs⟩ := recognizes_blockOf hS _ _ _ he₅ hss
    rw [ahead_append] at hus ha
    rw [← List.append_assoc, ahead_append] at hxs
    exact ⟨he₆, w :: (xs ++ (us ++ vs)), by simp, .blockFunction hwk hxs hus ha hvs⟩

theorem decoratedOf_eq_ok {d : Node} (he : Ended ts) (hk : ahead ts .eof = .atSign)
    (h : decoratedOf S ts = .ok d rest) :
    Ended rest ∧ ∃ us, ts = us ++ rest ∧ Composes .form d us (ahead rest .eof) := by
  obtain ⟨_, us, hg, h₁⟩ := bind_eq_ok.mp h
  cases hg
  obtain ⟨ds, vs, hds, h₂⟩ := bind_eq_ok.mp h₁
  obtain ⟨he₁, us, rfl, hus⟩ := decorators_eq_ok he (Nat.le_refl _) hds
  obtain ⟨j, ws, hj, h₃⟩ := bind_eq_ok.mp h₂
  obtain ⟨rfl, rfl⟩ := currentKind_eq_ok hj
  have hne : ds ≠ [] := by
    rintro rfl
    cases hus with
    | nil hno => exact hno hk
  obtain ⟨d, ds, rfl⟩ := List.exists_cons_of_ne_nil hne
  split at h₃
  · next hf =>
    obtain ⟨f, xs, hx, h₄⟩ := bind_eq_ok.mp h₃
    obtain ⟨rfl, rfl⟩ := pure_eq_ok.mp h₄
    obtain ⟨he₂, vs, rfl, hvs⟩ := functionOf_eq_ok hS he₁ hf hx
    rw [ahead_append] at hus
    exact ⟨he₂, us ++ vs, by simp, .decorated hus hvs⟩
  · next hf =>
    cases ds with
    | nil =>
      obtain ⟨rfl, rfl⟩ := pure_eq_ok.mp h₃
      exact ⟨he₁, us, rfl, .decorator hus hf⟩
    | cons e ds =>
      obtain ⟨rfl, rfl⟩ := pure_eq_ok.mp h₃
      exact ⟨he₁, us, rfl, .decorators hus hf⟩

theorem recognizes_formOf : Recognizes (Composes .form) (formOf S) := by
  intro ts a rest he h
  obtain ⟨j, us, hj, h₁⟩ := bind_eq_ok.mp h
  obtain ⟨rfl, rfl⟩ := currentKind_eq_ok hj
  generalize hk : ahead us .eof = j at h₁
  unfold formAt at h₁
  split at h₁
  · exact decoratedOf_eq_ok hS he hk h₁
  · exact recognizes_ifOf hS _ _ _ he h₁
  · exact recognizes_whileOf hS _ _ _ he h₁
  · exact recognizes_forOf hS _ _ _ he h₁
  · obtain ⟨hd, us, rfl, hus⟩ := functionOf_eq_ok hS he hk h₁
    exact ⟨hd, us, rfl, .definition hus⟩
  · obtain ⟨hd, us, rfl, hus⟩ := recognizes_returnStatement _ _ _ he h₁
    exact ⟨hd, us, rfl, .returning hus⟩
  · exact recognizes_tryOf hS _ _ _ he h₁
  · obtain ⟨e, vs, hx, h₂⟩ := bind_eq_ok.mp h₁
    obtain ⟨he₁, us, rfl, hus⟩ := recognized_expression _ _ _ he hx
    obtain ⟨j, ws, hj, h₃⟩ := bind_eq_ok.mp h₂
    obtain ⟨rfl, rfl⟩ := currentKind_eq_ok hj
    split at h₃
    · next hend =>
      simp only [Bool.or_eq_true, decide_eq_true_eq] at hend
      cases ws with
      | nil => exact absurd rfl he₁.ne_nil
      | cons c ws =>
        rw [discard_bind] at h₃
        obtain ⟨hd, h₄⟩ := advance_bind_eq_ok he₁ (by rcases hend with hc | hc <;> simp_all) h₃
        obtain ⟨rfl, rfl⟩ := pure_eq_ok.mp h₄
        exact ⟨hd, us ++ [c], by simp, .expression hus (.sign hend)⟩
    · next hend =>
      simp only [Bool.or_eq_true, decide_eq_true_eq, not_or] at hend
      obtain ⟨rfl, rfl⟩ := pure_eq_ok.mp h₃
      exact ⟨he₁, us, rfl, composes_expression hus hend.1 hend.2⟩

end Statements

theorem recognizes_statementWithin (n : Nat) :
    Recognizes (Composes .statement) (statementWithin n) := by
  induction n with
  | zero =>
    intro ts a rest _ h
    cases h
  | succ n ih =>
    intro ts a rest he h
    rw [statementWithin_succ] at h
    obtain ⟨_, us, hs, h₁⟩ := bind_eq_ok.mp h
    obtain ⟨ns, rfl, hn, -, he₁⟩ := skipNewlines_eq_ok he hs
    obtain ⟨hd, us, rfl, hus⟩ := recognizes_formOf ih _ _ _ he₁ h₁
    exact ⟨hd, ns ++ us, by simp, .statement hn hus⟩

/-- What is read as a statement is composed as one. -/
theorem recognizes_statement : Recognizes (Composes .statement) statement :=
  fun ts => recognizes_statementWithin (depthFor ts) ts

/-- What is read as a program is composed as one, up to an end mark. -/
theorem program_of_programOf {t : Node} (he : Ended ts) (h : programOf ts = .ok t) :
    ∃ ss us e tl, ts = us ++ e :: tl ∧ e.kind = .eof ∧ Program ss us ∧ t = .program ss := by
  unfold programOf at h
  split at h
  · next n rest hp =>
    cases h
    obtain ⟨_, us, hs, h₁⟩ := bind_eq_ok.mp hp
    obtain ⟨ns, rfl, hn, hnl, he₁⟩ := skipNewlines_eq_ok he hs
    obtain ⟨_, vs, hg, h₂⟩ := bind_eq_ok.mp h₁
    cases hg
    obtain ⟨ss, ws, hss, h₃⟩ := bind_eq_ok.mp h₂
    obtain ⟨rfl, rfl⟩ := pure_eq_ok.mp h₃
    obtain ⟨he₂, hk, us, rfl, hus⟩ := lines_eq_ok recognizes_statement he₁ hnl hss
    cases ws with
    | nil => exact absurd rfl he₂.ne_nil
    | cons e tl =>
      rw [ahead_append, hk] at hnl
      exact ⟨ss, ns ++ us, e, tl, by simp, hk, .intro hn hnl hus, rfl⟩
  · cases h

/-- Exactly the composed tokens are read as a program. -/
theorem programOf_eq_ok_iff {e : Token} {t : Node}
    (hu : ∀ u ∈ us, u.kind ≠ .eof) (he : e.kind = .eof) :
    programOf (us ++ [e]) = .ok t ↔ ∃ ss, Program ss us ∧ t = .program ss := by
  constructor
  · intro h
    obtain ⟨ss, vs, f, tl, hs, hf, hp, rfl⟩ := program_of_programOf ⟨us, e, rfl, he⟩ h
    have hvs : us = vs := by
      cases tl with
      | nil => exact (List.append_inj' hs rfl).1
      | cons x tl =>
        obtain ⟨tl', y, hy⟩ := List.eq_nil_or_concat (x :: tl) |>.resolve_left (by simp)
        rw [hy, List.concat_eq_append, ← List.cons_append, ← List.append_assoc] at hs
        have hmem : f ∈ us := by rw [(List.append_inj' hs rfl).1]; simp
        exact absurd hf (hu f hmem)
    subst hvs
    exact ⟨ss, hp, rfl⟩
  · rintro ⟨ss, hp, rfl⟩
    exact hp.programOf_eq he []

end FloScript.Parser
