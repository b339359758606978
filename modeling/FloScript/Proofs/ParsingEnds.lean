import FloScript.Grammar.Cursor
import FloScript.Proofs.JoinedTexts
import FloScript.Proofs.ProgramRefusal
import FloScript.Proofs.TokenSteps

/-! How parsing ends. On tokens with an end mark behind them it comes to an end mark or refuses a
token, after passing the tokens before it one by one. The token it refuses is the first one at which
a program has become impossible. -/
namespace FloScript.Parser

variable {α : Type} {p : Parser α} {a : α} {t : Token} {ts us tl rest : List Token}

section Rules

end Rules

section Places

theorem remaining_inside {i : Nat} (hi : i < ts.length) :
    (⟨ts, i⟩ : Cursor).remaining = ts.drop i := by
  have hlt : ¬(ts.length : Int) ≤ i := by omega
  simp only [Cursor.remaining, if_neg hlt, Int.natCast_nonneg, if_true, Int.toNat_natCast]

theorem remaining_start (he : ts ≠ []) : (⟨ts, 0⟩ : Cursor).remaining = ts :=
  remaining_inside (List.length_pos_iff.mpr he)

theorem Ended.drop (h : Ended ts) {i : Nat} (hi : i < ts.length) : Ended (ts.drop i) := by
  obtain ⟨us, e, rfl, he⟩ := h
  rw [List.length_append, List.length_singleton] at hi
  exact ⟨us.drop i, e, List.drop_append_of_le_length (by omega), he⟩

theorem run_of_ok (h : p (us ++ t :: tl) = .ok a (t :: tl)) :
    Cursor.run p ⟨us ++ t :: tl, 0⟩ = (.ok a, ⟨us ++ t :: tl, us.length⟩) := by
  simp [Cursor.run, remaining_start, h]

theorem run_of_error {e : Fault} (h : p (us ++ t :: tl) = .error e (t :: tl)) :
    Cursor.run p ⟨us ++ t :: tl, 0⟩ = (.error e, ⟨us ++ t :: tl, us.length⟩) := by
  simp [Cursor.run, remaining_start, h]

end Places

section Progress

end Progress

/-- The last token that a text is read as is its only end mark. -/
theorem tokensOf_ended {source : String} (h : tokensOf source = .ok ts) :
    ∃ us e, ts = us ++ [e] ∧ e.kind = .eof ∧ ∀ u ∈ us, u.kind ≠ .eof := by
  obtain ⟨s, hcomes, -, rfl⟩ := Scanner.tokensOf_eq_ok_iff.mp h
  obtain ⟨us, hus, hne⟩ := hcomes.tokens
  exact ⟨_, _, rfl, rfl, by simpa [hus, Scanner.ofSource] using hne⟩

theorem program_ends (he : Ended ts) : ∃ us t tl, ts = us ++ t :: tl ∧
    ((t.kind = .eof ∧ ∃ ns, Reads program us .eof (.program ns)) ∨
      ∃ cause, Refuses program us t cause ∧ ∃ ns vs, Program ns (us ++ vs)) := by
  cases decided_program he with
  | reads us t tl hsplit h => exact ⟨us, t, tl, hsplit, .inl ⟨h.1, _, h.2.reads⟩⟩
  | refuses us t tl hsplit hr hb => exact ⟨us, t, tl, hsplit, .inr ⟨_, hr, hb⟩⟩

/-- An assignment with nothing to assign. -/
def unfinished : List Token := [sample .identifier, sample .assign, sample .eof]

theorem ended_unfinished : Ended unfinished :=
  ⟨[sample .identifier, sample .assign], sample .eof, rfl, rfl⟩

/-- A fault depends on the tokens up to the one it names, and on no others; and without that one
they begin a program. -/
theorem fault_at_earliest_token {e : Fault} {c : Cursor} (he : Ended ts)
    (h : Cursor.run program ⟨ts, 0⟩ = (.error e, c)) :
    ∃ n : Nat, c = ⟨ts, n⟩ ∧ n < ts.length ∧
      (∀ ts', Ended ts' → ts'.take (n + 1) = ts.take (n + 1) →
        Cursor.run program ⟨ts', 0⟩ = (.error e, ⟨ts', n⟩)) ∧
      ∃ ts' p c', Ended ts' ∧ ts'.take n = ts.take n ∧
      Cursor.run program ⟨ts', 0⟩ = (.ok p, c') := by
  obtain ⟨us, t, tl, rfl, ⟨hk, ns, hr⟩ | ⟨cause, hr, ns, vs, hp⟩⟩ := program_ends he
  · rw [run_of_ok (hr t tl hk)] at h
    cases h
  rw [run_of_error (hr tl)] at h
  cases h
  refine ⟨us.length, rfl, by simp, fun ts' _ htake => ?_, ?_⟩
  · -- The same tokens up to the refused one, and then any others.
    have hts : ts' = us ++ t :: ts'.drop (us.length + 1) := by
      conv => lhs; rw [← List.take_append_drop (us.length + 1) ts', htake]
      simp [List.take_append, List.take_of_length_le]
    rw [hts]
    exact run_of_error (hr _)
  · let e : Token := sample .eof
    refine ⟨us ++ vs ++ [e], .program ns, ⟨us ++ vs ++ [e], (us ++ vs).length⟩,
      ⟨us ++ vs, e, rfl, rfl⟩, by simp, ?_⟩
    exact run_of_ok (hp.reads e [] rfl)

/-- The value that is missing is missed at the end mark, whatever comes behind that. -/
theorem fault_of_unfinished :
    Cursor.run program ⟨unfinished, 0⟩ =
      (.error (.grammatical (sample .eof).place (.unexpectedToken .eof)), ⟨unfinished, 2⟩) ∧
    ∀ tl, Ended (unfinished ++ tl) →
      Cursor.run program ⟨unfinished ++ tl, 0⟩ =
        (.error (.grammatical (sample .eof).place (.unexpectedToken .eof)),
          ⟨unfinished ++ tl, 2⟩) := by
  have hrun : Cursor.run program ⟨unfinished, 0⟩ =
      (.error (.grammatical (sample .eof).place (.unexpectedToken .eof)), ⟨unfinished, 2⟩) := rfl
  obtain ⟨n, hc, -, hsame, -⟩ := fault_at_earliest_token ended_unfinished hrun
  obtain rfl : n = 2 := by
    have hpos := congrArg Cursor.pos hc
    simp only at hpos
    omega
  exact ⟨hrun, fun tl he => hsame _ he rfl⟩

end FloScript.Parser
