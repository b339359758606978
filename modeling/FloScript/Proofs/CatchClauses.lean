import FloScript.Proofs.EndStates
import FloScript.Proofs.Leaving
import FloScript.Proofs.ParsedTrees

/-! What becomes of a signal that ends the block of a try statement. A catch clause that has a
statement takes it, and nothing is left of it; a catch clause without statements is as good as
none. -/
namespace FloScript

namespace Evaluator

variable {ev : Evaluator} {scope inner : Nat} {ns ks : List Node} {name : Option String}
  {last : Option (List Node)} {m m₁ m₂ m' : Machine} {e f g : Signal} {v w : Value}
  {ending : Except Signal Value}

theorem settle_eq (h : ending ≠ .error .unfinished) :
    settle ev scope last ending = block ev scope .null (last.getD []) >>= fun _ =>
      Run.release ending := by
  cases ending with
  | ok v => rfl
  | error e =>
    cases e with
    | fault f => rfl
    | returned v => rfl
    | unfinished => exact absurd rfl h

/-- An attempt has a value in the end if it had one before its last clause, and this clause
completes. -/
theorem settle_eq_ok_iff : settle ev scope last ending m = .ok v m' ↔
    ending = .ok v ∧ ∃ w, block ev scope .null (last.getD []) m = .ok w m' := by
  by_cases hu : ending = .error .unfinished
  · subst hu
    exact iff_of_false nofun (fun h => nomatch h.1)
  rw [settle_eq hu]
  cases hl : block ev scope .null (last.getD []) m with
  | error g m₁ =>
    rw [Run.bind_error hl]
    exact iff_of_false nofun (fun h => nomatch h.2)
  | ok w m₁ =>
    rw [Run.bind_ok hl]
    cases ending with
    | ok u =>
      constructor
      · rintro ⟨⟩
        exact ⟨rfl, w, rfl⟩
      · rintro ⟨⟨⟩, z, ⟨⟩⟩
        rfl
    | error e => exact iff_of_false nofun (fun h => nomatch h.1)

/-- What an attempt throws in the end was thrown before its last clause or is thrown by it. -/
theorem settle_eq_error (h : settle ev scope last ending m = .error f m') :
    ending = .error f ∨ block ev scope .null (last.getD []) m = .error f m' := by
  by_cases hu : ending = .error .unfinished
  · subst hu
    cases h
    exact .inl rfl
  rw [settle_eq hu] at h
  cases hl : block ev scope .null (last.getD []) m with
  | error g m₁ =>
    rw [Run.bind_error hl] at h
    exact .inr h
  | ok w m₁ =>
    rw [Run.bind_ok hl] at h
    cases ending with
    | ok u => cases h
    | error e =>
      cases h
      exact .inl rfl

/-- Only the text of a returned value may fail to be written when a catch clause is entered. -/
theorem enterCatch_eq_error (h : enterCatch scope name e m = .error g m') (he : e ≠ .unfinished) :
    ∃ v f, e = .returned v ∧ v.display m'.scopes = .error f ∧ g = .fault f := by
  obtain ⟨inner, m₁, hnew⟩ : ∃ inner m₁, Run.newScope (some scope) m = .ok inner m₁ := ⟨_, _, rfl⟩
  unfold enterCatch at h
  rw [Run.bind_ok hnew] at h
  cases name with
  | none => cases h
  | some x =>
    change (if x.isEmpty = true then pure inner else
      caughtText e >>= fun t =>
      Run.define inner x (.text t) >>= fun _ => pure inner : Run Nat) m₁ = _ at h
    split at h
    · cases h
    cases e with
    | fault f => cases h
    | unfinished => exact absurd rfl he
    | returned v =>
      have htext : caughtText (.returned v) m₁ = Run.lift (v.display m₁.scopes) m₁ := rfl
      cases hv : v.display m₁.scopes with
      | ok t =>
        rw [hv] at htext
        rw [Run.bind_ok htext] at h
        cases h
      | error f =>
        rw [hv] at htext
        rw [Run.bind_error htext] at h
        cases h
        exact ⟨v, f, rfl, hv, rfl⟩

/-- After a catch clause that was entered only the last clause is still to run. -/
theorem attempt_entered {n : Node} (hb : block ev scope .null ns m = .error e m₁)
    (he : e ≠ .unfinished) (hin : enterCatch scope name e m₁ = .ok inner m₂)
    (hend : Run.capture (block ev inner .null (n :: ks)) m₂ = .ok ending m') :
    attempt ev scope ns name (some (n :: ks)) last m = settle ev scope last ending m' := by
  have hcapture :
      Run.capture (enterCatch scope name e >>= fun inner => block ev inner .null (n :: ks)) m₁ =
        .ok ending m' := by
    rw [← hend]
    simp only [Run.capture, Run.bind_ok hin]
  rw [attempt_caught he hb, caught]
  exact Run.bind_ok hcapture

/-- A catch clause that cannot be entered throws, and then the last clause is still to run. -/
theorem attempt_not_entered {n : Node} (hb : block ev scope .null ns m = .error e m₁)
    (he : e ≠ .unfinished) (hin : enterCatch scope name e m₁ = .error g m₂) :
    attempt ev scope ns name (some (n :: ks)) last m = settle ev scope last (.error g) m₂ := by
  rw [attempt_caught he hb, caught]
  exact Run.bind_ok (Run.capture_error (Run.bind_error hin))

end Evaluator

open Evaluator

/-- The result of a try statement whose catch clause `ks` was entered in the state `m`, with the
scope `inner`: nothing is left of what was caught. -/
structure Taken (ev : Evaluator) (scope : Nat) (ks : List Node) (last : Option (List Node))
    (inner : Nat) (m : Machine) (result : EStateM.Result Signal Machine Value) : Prop where
  /-- There is a value if and only if the catch clause and then the last clause complete. -/
  value : ∀ v m', result = .ok v m' ↔ ∃ m₁ w, ev.block inner .null ks m = .ok v m₁ ∧
    ev.block scope .null (last.getD []) m₁ = .ok w m'
  /-- Nothing is thrown but what one of the two clauses throws. -/
  signal : ∀ f m', result = .error f m' → (∃ m₁, ev.block inner .null ks m = .error f m₁) ∨
    ev.block scope .null (last.getD []) (endState (ev.block inner .null ks) m) = .error f m'

theorem taken_settle {ev : Evaluator} {scope inner : Nat} {ks : List Node}
    {last : Option (List Node)} {m m₁ : Machine} {ending : Except Signal Value}
    (h : Run.capture (ev.block inner .null ks) m = .ok ending m₁) :
    Taken ev scope ks last inner m (settle ev scope last ending m₁) := by
  cases hclause : ev.block inner .null ks m with
  | ok u m₂ =>
    simp only [Run.capture, hclause] at h
    cases h
    refine ⟨fun v m' => ?_, fun f m' hf => ?_⟩
    · rw [settle_eq_ok_iff]
      constructor
      · rintro ⟨⟨⟩, w, hw⟩
        exact ⟨m₁, w, hclause, hw⟩
      · rintro ⟨m₂, w, hv, hw⟩
        cases hclause.symm.trans hv
        exact ⟨rfl, w, hw⟩
    · rw [endState_of_ok hclause]
      rcases settle_eq_error hf with hu | hlast
      · cases hu
      · exact .inr hlast
  | error g m₂ =>
    simp only [Run.capture, hclause] at h
    cases h
    refine ⟨fun v m' => ?_, fun f m' hf => ?_⟩
    · rw [settle_eq_ok_iff]
      constructor
      · rintro ⟨⟨⟩, -⟩
      · rintro ⟨m₂, w, hv, -⟩
        cases hclause.symm.trans hv
    · rw [endState_of_error hclause]
      rcases settle_eq_error hf with hg | hlast
      · cases hg
        exact .inl ⟨m₁, hclause⟩
      · exact .inr hlast

section

variable {rounds d scope : Nat} {ns : List Node} {name : Option String}
  {last : Option (List Node)} {m m₁ : Machine} {e : Signal}

/-- The block of a try statement has ended with a signal. A catch clause that has a statement and is
entered takes the signal. It is entered unless the signal is the return of a value that has no text;
that fault is thrown then. A catch clause without statements is as good as none, and the signal
passes. -/
theorem catches_unless_empty (hb : (eval rounds d).block scope .null ns m = .error e m₁)
    (he : e ≠ .unfinished) :
    (∀ ks, ks ≠ [] →
      (∀ inner m₂, enterCatch scope name e m₁ = .ok inner m₂ →
        Taken (eval rounds d) scope ks last inner m₂
        (eval rounds (d + 1) (.trying ns name (some ks) last) scope m)) ∧
      ∀ g m₂, enterCatch scope name e m₁ = .error g m₂ →
        (∃ v f, e = .returned v ∧ v.display m₂.scopes = .error f ∧ g = .fault f) ∧
        ∀ w m', (eval rounds d).block scope .null (last.getD []) m₂ = .ok w m' →
          eval rounds (d + 1) (.trying ns name (some ks) last) scope m = .error g m') ∧
    eval rounds (d + 1) (.trying ns name (some []) last) scope m =
      eval rounds (d + 1) (.trying ns name none last) scope m ∧
    (∀ w m', (eval rounds d).block scope .null (last.getD []) m₁ = .ok w m' →
      eval rounds (d + 1) (.trying ns name (some []) last) scope m = .error e m') ∧
    ∀ v m', eval rounds (d + 1) (.trying ns name (some []) last) scope m ≠ .ok v m' := by
  refine ⟨?_, rfl, ?_, ?_⟩
  · intro ks hks
    obtain ⟨k, ks, rfl⟩ := List.exists_cons_of_ne_nil hks
    refine ⟨fun inner m₂ hin => ?_, fun g m₂ hin =>
      ⟨enterCatch_eq_error hin he, fun w m' hlast => ?_⟩⟩
    · obtain ⟨ending, m₃, hend⟩ : ∃ ending m₃,
          Run.capture ((eval rounds d).block inner .null (k :: ks)) m₂ = .ok ending m₃ := by
        unfold Run.capture
        split <;> exact ⟨_, _, rfl⟩
      change Taken _ _ _ _ _ _ (attempt (eval rounds d) scope ns name (some (k :: ks)) last m)
      rw [attempt_entered hb he hin hend]
      exact taken_settle hend
    · change attempt (eval rounds d) scope ns name (some (k :: ks)) last m = _
      obtain ⟨v, f, -, -, rfl⟩ := enterCatch_eq_error hin he
      rw [attempt_not_entered hb he hin]
      exact settle_error nofun hlast
  · intro w m' hlast
    exact attempt_open rfl he hb hlast
  · intro v m' h
    have hguarded : guarded (eval rounds d) scope ns name (some []) m = .ok (.error e) m₁ :=
      guarded_error he hb
    change attempt (eval rounds d) scope ns name (some []) last m = _ at h
    rw [attempt_eq, Run.bind_ok hguarded, settle_eq_ok_iff] at h
    cases h.1

end

/-- An undefined name in a try statement with an empty catch clause. -/
def emptyCatch : String := "try x catch e \x7b\x7d"

def emptyCatchTokens : List Token :=
  [⟨.tryWord, .text "try", ⟨1, 1⟩⟩, ⟨.identifier, .text "x", ⟨1, 5⟩⟩,
    ⟨.catchWord, .text "catch", ⟨1, 7⟩⟩, ⟨.identifier, .text "e", ⟨1, 13⟩⟩,
    ⟨.lbrace, .text "\x7b", ⟨1, 15⟩⟩, ⟨.rbrace, .text "\x7d", ⟨1, 16⟩⟩, ⟨.eof, .null, ⟨1, 17⟩⟩]

theorem emptyCatch_passes :
    parse emptyCatch = .ok (.program [.trying [.identifier "x"] (some "e") (some []) none]) ∧
      runSource emptyCatch .initial = .error (.fault (.undefined "x")) .initial ∧
      ∃ m, eval 1 2 (.trying [.identifier "x"] (some "e") (some [.number (.int 2)]) none)
        Machine.globals .initial = .ok (.int 2) m := by
  have htokens : Scanner.tokensFrom? 16 ⟨1, 1⟩ emptyCatch.toList = some emptyCatchTokens := rfl
  have hparse :
      parse emptyCatch = .ok (.program [.trying [.identifier "x"] (some "e") (some []) none]) :=
    parse_of_tokens htokens rfl
  have hblock :
      ∀ rounds d, (eval rounds (d + 1)).block Machine.globals .null [.identifier "x"] .initial =
        .error (.fault (.undefined "x")) .initial := fun _ _ => rfl
  refine ⟨hparse, ?_, ?_⟩
  · have hpass :
        eval roundLimit 959 (.trying [.identifier "x"] (some "e") (some []) none)
          Machine.globals .initial =
        .error (.fault (.undefined "x")) .initial :=
      (catches_unless_empty (hblock roundLimit 957) nofun).2.2.1 .null _ rfl
    rw [runSource_of_parse hparse]
    exact Run.bind_error hpass
  · have htaken : Taken (eval 1 1) Machine.globals [.number (.int 2)] none _ _
        (eval 1 2 (.trying [.identifier "x"] (some "e") (some [.number (.int 2)]) none)
          Machine.globals .initial) :=
      ((catches_unless_empty (hblock 1 0) nofun).1 _ (by simp)).1 _ _ rfl
    exact ⟨_, (htaken.value _ _).mpr ⟨_, .null, rfl, rfl⟩⟩

end FloScript
