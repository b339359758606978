import FloScript.Proofs.DisciplinedEvaluation

/-! Policies for evaluation. A policy says which nodes are met, which functions are made and which
signals end a step. It is a discipline that does not look at scopes. Evaluation that is held to a
policy agrees with an evaluation in which nodes that are never met are evaluated by something
else. -/
namespace FloScript

/-- Evaluates a node in a scope, at most `depth` nodes deep. What is done with the picked nodes is
left to another evaluator. -/
def evalExcept (picked : Node → Bool) (other : Evaluator) (rounds : Nat) : Nat → Evaluator
  | 0 => fun _ _ => Run.fail .depth
  | depth + 1 => fun n scope =>
    if picked n then other n scope
      else Evaluator.step (evalExcept picked other rounds depth) rounds n scope

/-- What evaluation is held to: the nodes it may meet, the functions it may make, and the signals it
may end with. The laws say that meeting such nodes makes no other functions and raises no other
signals. -/
structure Policy where
  node : Node → Prop
  closure : Closure → Prop
  signal : Signal → Prop
  calm : ∀ f : Fault, f.isCalm = true → signal (.fault f)
  unfinished : signal .unfinished
  evaluated : ∀ n, node n → ∀ k ∈ n.evaluated, node k
  function : ∀ name ps ns isAsync, node (.function name ps ns isAsync) →
    ∀ scope, closure ⟨ps, ns, scope, isAsync⟩
  returning : ∀ x, node (.returning x) → ∀ v, signal (.returned v)
  binary : ∀ l op r, node (.binary l op r) → Operator.ofText? op = none →
    signal (.fault (.runtime (.unknownOperator op)))
  unary : ∀ op x, node (.unary op x) → op ≠ "-" → op ≠ "!" →
    signal (.fault (.runtime (.unknownUnaryOperator op)))
  unhandled : ∀ n, node n → n.isHandled = false →
    signal (.fault (.runtime (.unknownNode n.typeName)))

namespace Policy

variable (P : Policy) {m : Machine} {id : Nat} {name : String} {v : Value} {ss : Scopes}

/-- If the value is a function, it is one that may be made. -/
def Bears (v : Value) : Prop := ∀ l c, v = .function l c → P.closure c

/-- All functions in the value are such that may be made. -/
abbrev Good (v : Value) : Prop := v.Holding P.Bears

/-- All functions that are bound to names are such that may be made. -/
def Binds (ss : Scopes) : Prop := ∀ id, ∀ b ∈ ss.bindingsOf id, P.Good b.2

/-- All functions that are bound to names or wait in tasks are such that may be made. -/
structure Admits (m : Machine) : Prop where
  bound : P.Binds m.scopes
  tasks : ∀ (id : Nat) (v : Value), m.tasks[id]? = some (some v) → P.Good v

variable {P}

theorem Binds.inherited (h : P.Binds ss) : Value.Inherited P.Bears ss where
  closure _ _ _ := nofun
  vars _ _ := nofun
  method _ _ _ := nofun
  parent _ _ _ _ := nofun
  bound id _ := h id

theorem Binds.define (h : P.Binds ss) (hv : P.Good v) : P.Binds (ss.define id name v) := by
  intro i b hb
  unfold Scopes.bindingsOf at hb
  rw [Scopes.getElem?_define] at hb
  have hold := h i
  unfold Scopes.bindingsOf at hold
  split at hb
  · cases hi : ss[i]? with
    | none =>
      rw [hi] at hb
      cases hb
    | some s =>
      rw [hi] at hb hold
      rcases Bindings.eq_of_mem_put hb with hb | hb
      · exact hold b hb
      · rwa [hb]
  · exact hold b hb

theorem Binds.assign {ss' : Scopes} (h : P.Binds ss) (hv : P.Good v)
    (hss : ss.assign id name v = .ok ss') :
    P.Binds ss' := by
  obtain ⟨p, -, hss⟩ := Value.except_bind_eq_ok.mp hss
  cases hss
  exact h.define hv

theorem Binds.push {q : Option Nat} (h : P.Binds ss) : P.Binds (ss.push ⟨q, []⟩) := by
  intro i b hb
  unfold Scopes.bindingsOf at hb
  rw [Array.getElem?_push] at hb
  split at hb
  · cases hb
  · exact h i b hb

theorem Binds.get (h : P.Binds ss) (hv : ss.get id name = .ok v) : P.Good v := by
  obtain ⟨p, -, hv⟩ := Value.except_bind_eq_ok.mp hv
  simp only at hv
  split at hv
  · next w hw =>
    cases hv
    obtain ⟨l₁, l₂, hl, -⟩ := List.lookup_eq_some_iff.mp hw
    refine h p.1 (name, v) ?_
    rw [hl]
    simp
  · cases hv

/-- The policy as a discipline. What functions may be made does not depend on scopes, and nothing is
asked of what is done to a machine. -/
def discipline (P : Policy) : Discipline where
  node := P.node
  signal := P.signal
  fit := P.Admits
  extent _ := 0
  inside _ _ := True
  refers _ := P.Bears
  moves _ _ _ := True
  inside_mono _ _ := trivial
  refers_mono h _ := h
  moves_refl _ _ := trivial
  moves_trans _ _ := trivial
  moves_new _ _ _ := trivial
  extent_mono _ := Nat.le_refl 0
  globals _ := trivial
  closure _ := trivial
  inherited hm := hm.bound.inherited
  found hm _ hv := hm.bound.get hv
  waiting id v hm hw := hm.tasks id v hw
  kept _ _ _ hm hscopes htasks := ⟨⟨hscopes ▸ hm.bound, htasks⟩, trivial⟩
  defined _ _ _ _ hm hv := ⟨⟨hm.bound.define hv, hm.tasks⟩, trivial⟩
  assigned _ _ _ _ _ _ hm _ hv hss := ⟨⟨hm.bound.assign hv hss, hm.tasks⟩, trivial⟩
  opened _ _ _ hm _ := ⟨⟨hm.bound.push, hm.tasks⟩, trivial, trivial⟩
  calm := P.calm
  unfinished := P.unfinished
  evaluated := P.evaluated
  function {name ps ns isAsync own _} hf _ := by
    rintro l _ _ ⟨rfl⟩
    exact P.function name ps ns isAsync hf own
  returning := P.returning
  binary := P.binary
  unary := P.unary
  unhandled := P.unhandled

/-- Nodes that have a property together with all that stands inside them, and functions whose bodies
are made of such nodes. -/
def everywhere (p : Node → Prop) (signal : Signal → Prop)
    (calm : ∀ f : Fault, f.isCalm = true → signal (.fault f)) (unfinished : signal .unfinished)
    (returned : ∀ v, signal (.returned v))
    (binary : ∀ l op r, p (.binary l op r) → Operator.ofText? op = none →
      signal (.fault (.runtime (.unknownOperator op))))
    (unary : ∀ op x, p (.unary op x) → op ≠ "-" → op ≠ "!" →
      signal (.fault (.runtime (.unknownUnaryOperator op))))
    (unhandled : ∀ n, p n → n.isHandled = false →
      signal (.fault (.runtime (.unknownNode n.typeName)))) : Policy where
  node := Node.Everywhere Node.children p
  closure c := ∀ n ∈ c.body, Node.Everywhere Node.children p n
  signal := signal
  calm := calm
  unfinished := unfinished
  evaluated _ hn _ hk := hn.part (Node.mem_children_of_evaluated hk)
  function _ _ _ _ hn _ _ hk := hn.part hk
  returning _ _ := returned
  binary l op r hn := binary l op r hn.self
  unary op x hn := unary op x hn.self
  unhandled n hn := unhandled n hn.self

/-- If the functions that may be made have bodies made of nodes that may be met, evaluation keeps to
the policy, and it does not depend on what is done with other nodes. -/
theorem alike_evalExcept {picked : Node → Bool} (hpicked : ∀ n, P.node n → picked n = false)
    (hclosure : ∀ c, P.closure c → ∀ n ∈ c.body, P.node n)
    (other : Evaluator) (rounds depth : Nat) :
    P.discipline.Alike (eval rounds depth) (evalExcept picked other rounds depth) := by
  refine Discipline.alike_eval (D := P.discipline) (fun n l c hc => ?_) (fun _ _ => rfl) ?_ depth
  · have hbears : P.Bears (.function l c) := hc
    exact hclosure c (hbears l c rfl)
  · intro depth t own m ht _ _ _ _
    simp only [evalExcept, hpicked t ht]
    rfl

theorem admits_withNatives (routines : List Native) : P.Admits (Machine.withNatives routines) where
  bound id b hb := by
    unfold Scopes.bindingsOf at hb
    obtain rfl | hid := Nat.eq_zero_or_pos id
    · obtain ⟨r, -, rfl⟩ := List.mem_map.mp hb
      exact Value.holding_native
    · have hnone : (Machine.withNatives routines).scopes[id]? = none := Array.getElem?_eq_none hid
      rw [hnone] at hb
      cases hb
  tasks id v h := by simp [Machine.withNatives] at h

end Policy
end FloScript
