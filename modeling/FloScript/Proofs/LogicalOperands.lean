import FloScript.Proofs.ParsedTrees
import FloScript.Proofs.ScopeRuns

/-! The operands of the logical operators. Both of them are evaluated before the operator looks at
the left one, so a left operand that decides the result alone does not keep the right one from
acting: it is as if the right one had not been evaluated only where it gives a value and leaves
everything as it was. -/
namespace FloScript

variable {m m₁ m₂ : Machine} {v w : Value} {e : Signal} {rounds d scope : Nat} {a b : Node}

/-- The two logical operators. -/
inductive Connective where
  | conjunction | disjunction
  deriving DecidableEq

namespace Connective

def text : Connective → String
  | conjunction => "&&"
  | disjunction => "||"

/-- Whether a value on the left decides the result alone. -/
def settledBy : Connective → Value → Scopes → Bool
  | conjunction, v, ss => !v.truthy ss
  | disjunction, v, ss => v.truthy ss

/-- The operation that evaluates its right operand only if the left one does not decide the
result. -/
def lazily (c : Connective) (x y : Run Value) : Run Value := do
  let v ← x
  if c.settledBy v (← Run.scopes) then return v else y

variable {c : Connective} {x y : Run Value}

section Lazily

theorem lazily_of_error (hx : x m = .error e m₁) : c.lazily x y m = .error e m₁ := Run.bind_error hx

theorem lazily_of_ok (hx : x m = .ok v m₁) :
    c.lazily x y m = if c.settledBy v m₁.scopes then .ok v m₁ else y m₁ := by
  unfold lazily
  rw [Run.bind_ok hx]
  change (if c.settledBy v m₁.scopes = true then pure v else y : Run Value) m₁ = _
  split <;> rfl

end Lazily

section Evaluated

theorem eval_of_left_error (ha : eval rounds d a scope m = .error e m₁) :
    eval rounds (d + 1) (.binary a c.text b) scope m = .error e m₁ := Run.bind_error ha

/-- What the right operand throws is thrown whatever the left one has given. -/
theorem eval_of_right_error (ha : eval rounds d a scope m = .ok v m₁)
    (hb : eval rounds d b scope m₁ = .error e m₂) :
    eval rounds (d + 1) (.binary a c.text b) scope m = .error e m₂ :=
  (Run.bind_ok ha).trans (Run.bind_error hb)

/-- The left value is judged in the state that the right operand has left. -/
theorem eval_of_values (ha : eval rounds d a scope m = .ok v m₁)
    (hb : eval rounds d b scope m₁ = .ok w m₂) :
    eval rounds (d + 1) (.binary a c.text b) scope m =
      .ok (if c.settledBy v m₂.scopes then v else w) m₂ := by
  refine (Run.bind_ok ha).trans ((Run.bind_ok hb).trans ?_)
  cases c with
  | conjunction =>
    change EStateM.Result.ok (if v.truthy m₂.scopes = true then w else v) m₂ = _
    cases hv : v.truthy m₂.scopes <;> simp [settledBy, hv]
  | disjunction => rfl

end Evaluated

section Stability

/-- The truth of a value hangs on the state only if it is what a scope binds. -/
theorem settledBy_eq (hv : ∀ id, v ≠ .bindings id) (ss ss' : Scopes) :
    c.settledBy v ss = c.settledBy v ss' := by
  have htruthy : v.truthy ss = v.truthy ss' := by
    cases v with
    | bindings id => exact absurd rfl (hv id)
    | _ => rfl
  cases c <;> simp only [settledBy, htruthy]

/-- What is true stays true when names are added. -/
theorem truthy_of_grows {ss ss' : Scopes} (hg : ss.Grows ss') (hv : v.truthy ss = true) :
    v.truthy ss' = true := by
  cases v with
  | bindings id =>
    have hne : ss.bindingsOf id ≠ [] := by simpa [Value.truthy] using hv
    have hid : id < ss.size := by
      by_contra hlt
      exact hne (by simp [Scopes.bindingsOf, Array.getElem?_eq_none (Nat.le_of_not_lt hlt)])
    have hnames : ss'.namesOf id ≠ [] := by
      intro hnil
      have hprefix := hg.names id hid
      rw [hnil, List.prefix_nil] at hprefix
      exact hne (List.map_eq_nil_iff.mp hprefix)
    have hne' : ss'.bindingsOf id ≠ [] := fun hnil => hnames (by simp [Scopes.namesOf, hnil])
    simpa [Value.truthy] using hne'
  | _ => exact hv

/-- Evaluation in a sound machine keeps it sound and takes no name away. -/
theorem grows_eval (hm : m.Sound) (hs : scope < m.scopes.size)
    (h : eval rounds d b scope m = .ok w m₁) :
    m.scopes.Grows m₁.scopes ∧ m₁.Sound := by
  obtain ⟨-, hsound, hadds, -⟩ := scoped_eval rounds d b trivial scope _ hs m hm (Nat.le_refl _)
  rw [endState_of_ok h] at hsound hadds
  exact ⟨hadds.1, hsound⟩

end Stability

/-- A value on the left that cannot come to decide the result while the right operand is evaluated:
it is not what a scope binds, or the operator is the conjunction and the machine is sound. -/
def Steady (c : Connective) (v : Value) (scope : Nat) (m : Machine) : Prop :=
  (∀ id, v ≠ .bindings id) ∨ c = .conjunction ∧ m.Sound ∧ scope < m.scopes.size

theorem Steady.open_after (h : c.Steady v scope m₁) (hb : eval rounds d b scope m₁ = .ok w m₂)
    (hv : c.settledBy v m₁.scopes = false) : c.settledBy v m₂.scopes = false := by
  rcases h with hv' | ⟨rfl, hm, hs⟩
  · rw [settledBy_eq hv' m₂.scopes m₁.scopes, hv]
  · have htrue : v.truthy m₁.scopes = true := by simpa [settledBy] using hv
    have hgrows := (grows_eval hm hs hb).1
    simp [settledBy, truthy_of_grows hgrows htrue]

section Agreement

/-- Where the left value decides the result, the right operand must give a value and change
nothing. -/
theorem eval_eq_left_iff (ha : eval rounds d a scope m = .ok v m₁)
    (hv : c.settledBy v m₁.scopes = true) :
    eval rounds (d + 1) (.binary a c.text b) scope m = .ok v m₁ ↔
      ∃ w, eval rounds d b scope m₁ = .ok w m₁ := by
  constructor
  · intro heq
    cases hb : eval rounds d b scope m₁ with
    | error e m₂ =>
      rw [eval_of_right_error ha hb] at heq
      cases heq
    | ok w m₂ =>
      rw [eval_of_values ha hb] at heq
      obtain rfl : m₂ = m₁ := by injection heq
      exact ⟨w, rfl⟩
  · rintro ⟨w, hb⟩
    rw [eval_of_values ha hb, if_pos hv]

/-- Where it does not, the right operand gives the result unless the left value has come to decide
it. -/
theorem eval_eq_right_iff (ha : eval rounds d a scope m = .ok v m₁) :
    eval rounds (d + 1) (.binary a c.text b) scope m = eval rounds d b scope m₁ ↔
      ∀ w m₂, eval rounds d b scope m₁ = .ok w m₂ → c.settledBy v m₂.scopes = true → v = w := by
  cases hb : eval rounds d b scope m₁ with
  | error e m₂ =>
    rw [eval_of_right_error ha hb]
    exact iff_of_true rfl fun w m₃ hw => by cases hw
  | ok w m₂ =>
    rw [eval_of_values ha hb]
    constructor
    · rintro heq w' m₃ ⟨⟩ hs
      rw [if_pos hs] at heq
      injection heq
    · intro h
      have hsame := h w m₂ rfl
      split
      · next hs => rw [hsame hs]
      · rfl

end Agreement

/-- A logical operation is the lazy one exactly where it makes no difference: a left value that
decides the result needs a right operand that gives a value and changes nothing, and any other left
value must not come to decide the result while the right operand is evaluated, unless the values are
the same. A signal of the right operand is thrown in any case, and its effects stay in any case.
Where the left value leaves the result open and is steady, result and effects are those of the right
operand. -/
theorem eval_eq_lazily_iff (c : Connective) (rounds d scope : Nat) (a b : Node) (m : Machine) :
    (eval rounds (d + 1) (.binary a c.text b) scope m =
        c.lazily (eval rounds d a scope) (eval rounds d b scope) m ↔
      ∀ v m₁, eval rounds d a scope m = .ok v m₁ →
        (c.settledBy v m₁.scopes = true → ∃ w, eval rounds d b scope m₁ = .ok w m₁) ∧
        (c.settledBy v m₁.scopes = false →
          ∀ w m₂, eval rounds d b scope m₁ = .ok w m₂ → c.settledBy v m₂.scopes = true → v = w)) ∧
    ∀ v m₁, eval rounds d a scope m = .ok v m₁ →
      (∀ e m₂, eval rounds d b scope m₁ = .error e m₂ →
        eval rounds (d + 1) (.binary a c.text b) scope m = .error e m₂) ∧
      (∀ w m₂, eval rounds d b scope m₁ = .ok w m₂ →
        ∃ u, eval rounds (d + 1) (.binary a c.text b) scope m = .ok u m₂) ∧
      (c.settledBy v m₁.scopes = false → c.Steady v scope m₁ →
        eval rounds (d + 1) (.binary a c.text b) scope m = eval rounds d b scope m₁) := by
  constructor
  · cases ha : eval rounds d a scope m with
    | error e m₁ =>
      rw [eval_of_left_error ha, lazily_of_error ha]
      exact iff_of_true rfl fun v m₂ h => by cases h
    | ok v m₁ =>
      rw [lazily_of_ok ha]
      cases hv : c.settledBy v m₁.scopes with
      | true =>
        rw [if_pos rfl, eval_eq_left_iff ha hv]
        constructor
        · rintro hb v' m₁' ⟨⟩
          exact ⟨fun _ => hb, fun hopen => by simp [hv] at hopen⟩
        · intro h
          exact (h v m₁ rfl).1 hv
      | false =>
        rw [if_neg Bool.false_ne_true, eval_eq_right_iff ha]
        constructor
        · rintro hb v' m₁' ⟨⟩
          exact ⟨fun hs => by simp [hv] at hs, fun _ => hb⟩
        · intro h
          exact (h v m₁ rfl).2 hv
  · intro v m₁ ha
    refine ⟨fun e m₂ hb => eval_of_right_error ha hb, fun w m₂ hb => ⟨_, eval_of_values ha hb⟩,
      fun hopen hsteady => ?_⟩
    refine (eval_eq_right_iff ha).mpr fun w m₂ hb hs => ?_
    rw [hsteady.open_after hb hopen] at hs
    cases hs

/-- A call behind a left operand that decides the result. -/
def guardedPrint : String := "false && print(1)"

def guardedPrintTokens : List Token :=
  [⟨.falseWord, .text "false", ⟨1, 1⟩⟩, ⟨.and, .text "&&", ⟨1, 7⟩⟩,
    ⟨.identifier, .text "print", ⟨1, 10⟩⟩,
    ⟨.lparen, .text "(", ⟨1, 15⟩⟩, ⟨.number, .int 1, ⟨1, 16⟩⟩,
    ⟨.rparen, .text ")", ⟨1, 17⟩⟩, ⟨.eof, .null, ⟨1, 18⟩⟩]

theorem guardedPrint_prints :
    parse guardedPrint = .ok (.program [.binary (.boolean (.bool false)) "&&"
      (.call (.identifier "print") [.number (.int 1)])]) ∧
    (∃ m, runSource guardedPrint .initial = .ok (.bool false) m ∧ m.output = "1\n") ∧
    ∀ d, eval roundLimit (d + 3) (.binary (.boolean (.bool false)) "&&"
        (.call (.identifier "print") [.number (.int 1)])) Machine.globals .initial ≠
      conjunction.lazily (eval roundLimit (d + 2) (.boolean (.bool false)) Machine.globals)
        (eval roundLimit (d + 2) (.call (.identifier "print") [.number (.int 1)]) Machine.globals)
        .initial := by
  have htokens : Scanner.tokensFrom? 18 ⟨1, 1⟩ guardedPrint.toList = some guardedPrintTokens := rfl
  have hparse : parse guardedPrint = .ok (.program [.binary (.boolean (.bool false)) "&&"
      (.call (.identifier "print") [.number (.int 1)])]) := parse_of_tokens htokens rfl
  refine ⟨hparse, ?_, fun d heq => ?_⟩
  · rw [runSource_of_parse hparse]
    exact ⟨_, rfl, rfl⟩
  · have hidle :=
      (eval_eq_lazily_iff conjunction roundLimit (d + 2) Machine.globals _ _ .initial).1.mp heq
    obtain ⟨w, hw⟩ := (hidle (.bool false) .initial rfl).1 rfl
    have hprint :
        eval roundLimit (d + 2) (.call (.identifier "print") [.number (.int 1)])
          Machine.globals .initial =
        .ok .null { Machine.initial with output := "1\n" } := rfl
    rw [hprint] at hw
    injection hw with _ hm
    exact absurd (congrArg Machine.output hm) (by decide)

end Connective

end FloScript
