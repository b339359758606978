import FloScript.Evaluation

/-! How a return leaves a function. The relation `Leaves` follows a run of statements to a return,
through all statements of the function around it; the attempts passed on the way are kept as guards,
the innermost first. -/
namespace FloScript

namespace Run

variable {α β : Type} {x : Run α} {f : α → Run β} {m m' : Machine} {a : α} {e : Signal}

theorem bind_ok (h : x m = .ok a m') : (x >>= f) m = f a m' := by
  change EStateM.bind x f m = _
  simp only [EStateM.bind, h]

theorem bind_error (h : x m = .error e m') : (x >>= f) m = .error e m' := by
  change EStateM.bind x f m = _
  simp only [EStateM.bind, h]

theorem bind_eq_ok {b : β} {m₁ : Machine} :
    (x >>= f) m = .ok b m₁ ↔ ∃ a m', x m = .ok a m' ∧ f a m' = .ok b m₁ := by
  cases hx : x m with
  | ok a m' =>
    rw [bind_ok hx]
    constructor
    · intro hf
      exact ⟨a, m', rfl, hf⟩
    · rintro ⟨a', m'', ⟨⟩, hf⟩
      exact hf
  | error e m' => simp [bind_error hx]

theorem capture_error (h : x m = .error e m') : capture x m = .ok (.error e) m' := by
  simp only [capture, h]

end Run

namespace Evaluator

variable (ev : Evaluator) (scope : Nat) (ns : List Node) (name : Option String)
  (clause last : Option (List Node))

/-- The scope of a catch clause, with the text of what was caught under its name. -/
def enterCatch (e : Signal) : Run Nat := do
  let inner ← Run.newScope (some scope)
  if let some x := name then
    unless x.isEmpty do
      Run.define inner x (.text (← caughtText e))
  return inner

/-- The ending of a block and, if it ends with a signal, of its catch clause. -/
def guarded : Run (Except Signal Value) := do
  match ← Run.capture (block ev scope .null ns) with
  | .ok v => return .ok v
  | .error .unfinished => throw .unfinished
  | .error e => Run.capture (handle ev scope name clause e)

/-- Runs the last clause of an attempt, and ends as the attempt did. -/
def settle : Except Signal Value → Run Value
  | .error .unfinished => throw .unfinished
  | ending => do
    let _ ← block ev scope .null (last.getD [])
    Run.release ending

/-- Runs a catch clause for a signal, then the last clause, and ends as the catch clause did. -/
def caught (e : Signal) (ks : List Node) : Run Value :=
  Run.capture (enterCatch scope name e >>= fun inner => block ev inner .null ks) >>=
    settle ev scope last

theorem attempt_eq : attempt ev scope ns name clause last =
    guarded ev scope ns name clause >>= settle ev scope last := by
  have hsettle : (fun ending : Except Signal Value => (match ending with
      | .error .unfinished => throw .unfinished
      | _ => do
        let _ ← block ev scope .null (last.getD [])
        Run.release ending : Run Value)) = settle ev scope last := by
    funext ending
    match ending with
    | .ok v | .error .unfinished | .error (.fault f) | .error (.returned v) => rfl
  unfold attempt guarded
  rw [bind_assoc, ← hsettle]
  congr
  funext ending
  match ending with
  | .ok v | .error .unfinished | .error (.fault f) | .error (.returned v) => rfl

theorem handle_cons (n : Node) (e : Signal) : handle ev scope name (some (n :: ns)) e =
    enterCatch scope name e >>= fun inner => block ev inner .null (n :: ns) := by
  unfold handle enterCatch
  simp only [bind_assoc]
  congr
  funext inner
  cases name with
  | none => rfl
  | some x =>
    by_cases hx : x.isEmpty = true
    · simp [hx]
    · simp [hx]

theorem handle_open (h : clause.getD [] = []) (e : Signal) :
    handle ev scope name clause e = throw e := by
  match clause, h with
  | none, _ | some [], _ => rfl

section

variable {ev scope ns name clause last} {c n : Node} {ks : List Node} {yes : List Node}
  {no : Option (List Node)} {m m₁ m₂ m' : Machine} {e : Signal} {b u v w : Value}
  {x : String} {k id size : Nat}

theorem step_conditional (rounds : Nat) (hc : ev c scope m = .ok b m₁) :
    step ev rounds (.conditional c yes no) scope m =
      block ev scope .null (if b.truthy m₁.scopes then yes else no.getD []) m₁ := by
  change (ev c scope >>= _) m = _
  rw [Run.bind_ok hc]
  change (if b.truthy m₁.scopes = true then _ else _ : Run Value) m₁ = _
  split <;> rfl

theorem loop_round (hc : ev c scope m = .ok b m₁) (hb : b.truthy m₁.scopes = true) :
    loop ev scope c ns (k + 1) u m =
      (block ev scope u ns >>= fun w => loop ev scope c ns k w) m₁ := by
  change (ev c scope >>= _) m = _
  rw [Run.bind_ok hc]
  change (if b.truthy m₁.scopes = true then _ else _ : Run Value) m₁ = _
  rw [if_pos hb]

theorem eachName_round (hs : (m.scopes.bindingsOf id).length = size)
    (hx : (m.scopes.bindingsOf id)[size - (k + 1)]? = some (x, w)) {y : String}
    (hd : Run.define scope y (.text x) m = .ok () m₁) :
    eachName ev scope y ns id size (k + 1) u m =
      (block ev scope u ns >>= fun w => eachName ev scope y ns id size k w) m₁ := by
  change (if (m.scopes.bindingsOf id).length ≠ size then _ else _ : Run Value) m = _
  rw [if_neg (by simp [hs]), hx]
  exact Run.bind_ok hd

theorem settle_error (he : e ≠ .unfinished) (h : block ev scope .null (last.getD []) m = .ok w m') :
    settle ev scope last (.error e) m = .error e m' := by
  cases e with
  | unfinished => exact absurd rfl he
  | fault f | returned v => exact Run.bind_ok h

theorem guarded_error (he : e ≠ .unfinished) (h : block ev scope .null ns m = .error e m') :
    guarded ev scope ns name clause m = Run.capture (handle ev scope name clause e) m' := by
  unfold guarded
  rw [Run.bind_ok (Run.capture_error h)]
  cases e with
  | unfinished => exact absurd rfl he
  | fault f | returned v => rfl

/-- An attempt that catches nothing ends as its block did, after its last clause. -/
theorem attempt_open (hc : clause.getD [] = []) (he : e ≠ .unfinished)
    (hb : block ev scope .null ns m = .error e m₁)
    (hl : block ev scope .null (last.getD []) m₁ = .ok w m') :
    attempt ev scope ns name clause last m = .error e m' := by
  have hg : guarded ev scope ns name clause m = .ok (.error e) m₁ := by
    rw [guarded_error he hb, handle_open _ _ _ _ hc]
    rfl
  rw [attempt_eq, Run.bind_ok hg]
  exact settle_error he hl

/-- What the block of an attempt throws is given to its catch clause. -/
theorem attempt_caught (he : e ≠ .unfinished) (hb : block ev scope .null ns m = .error e m₁) :
    attempt ev scope ns name (some (n :: ks)) last m =
      caught ev scope name last e (n :: ks) m₁ := by
  rw [attempt_eq, caught, ← handle_cons]
  change EStateM.bind _ _ m = EStateM.bind _ _ m₁
  simp only [EStateM.bind, guarded_error he hb]

theorem attempt_last {ending : Except Signal Value}
    (hg : guarded ev scope ns name clause m = .ok ending m₁) (hne : ending ≠ .error .unfinished)
    (hl : block ev scope .null (last.getD []) m₁ = .error e m') :
    attempt ev scope ns name clause last m = .error e m' := by
  rw [attempt_eq, Run.bind_ok hg]
  match ending, hne with
  | .ok v, _ | .error (.fault f), _ | .error (.returned v), _ => exact Run.bind_error hl
  | .error .unfinished, hne => exact absurd rfl hne

end

end Evaluator

open Evaluator

/-- A stage in running a statement: a statement, the rest of a block, or the rest of a loop. -/
inductive Stage where
  | node (n : Node)
  | block (value : Value) (rest : List Node)
  | loop (condition : Node) (body : List Node) (left : Nat) (value : Value)
  | each (name : String) (body : List Node) (value : Value) (items : List Value)
  | eachName (name : String) (body : List Node) (id size left : Nat) (value : Value)

namespace Stage

def run (ev : Evaluator) (scope : Nat) : Stage → Run Value
  | node n => ev n scope
  | block v ns => ev.block scope v ns
  | loop c ns k v => ev.loop scope c ns k v
  | each x ns v items => ev.each scope x ns v items
  | eachName x ns id size left v => ev.eachName scope x ns id size left v

/-- The loop over a value, if there is one. -/
def ofIterable? (m : Machine) (name : String) (ns : List Node) : Value → Option Stage
  | .list items | .tuple items => some (each name ns .null items)
  | .text s => some (each name ns .null (Value.characters s))
  | .dict es => some (each name ns .null (es.map (·.1)))
  | .bindings id =>
    some (eachName name ns id (m.scopes.bindingsOf id).length (m.scopes.bindingsOf id).length .null)
  | _ => none

theorem iterate_eq {ev : Evaluator} {scope : Nat} {name : String} {ns : List Node}
    {v : Value} {m : Machine} {st : Stage} (h : ofIterable? m name ns v = some st) :
    iterate ev scope name ns v m = st.run ev scope m := by
  cases v <;> cases h <;> rfl

end Stage

/-- An attempt around a return: the clause that would catch what its block throws, and the clause
run last. -/
structure Guard where
  depth : Nat
  scope : Nat
  clause : Option (List Node)
  last : Option (List Node)

/-- Nothing is caught. -/
def Guard.Open (g : Guard) : Prop := g.clause.getD [] = []

section

variable (rounds : Nat)

/-- The stage comes to a return of the value in the state `m'`, inside the given guards. -/
inductive Leaves : Nat → Nat → Stage → Machine → Value → List Guard → Machine → Prop where
  | bare {d scope : Nat} {m : Machine} : Leaves (d + 1) scope (.node (.returning none)) m .null [] m
  | absent {d scope : Nat} {m : Machine} {y : Node} :
      present y = false → Leaves (d + 1) scope (.node (.returning (some y))) m .null [] m
  | value {d scope : Nat} {m m' : Machine} {y : Node} {v : Value} :
      present y = true → eval rounds d y scope m = .ok v m' →
      Leaves (d + 1) scope (.node (.returning (some y))) m v [] m'
  | conditional {d scope : Nat} {m m₁ m' : Machine} {c : Node} {yes : List Node}
      {no : Option (List Node)} {b v : Value} {gs : List Guard} :
      eval rounds d c scope m = .ok b m₁ →
      Leaves d scope (.block .null (if b.truthy m₁.scopes then yes else no.getD [])) m₁ v gs m' →
      Leaves (d + 1) scope (.node (.conditional c yes no)) m v gs m'
  | whileLoop {d scope : Nat} {m m' : Machine} {c : Node} {ns : List Node}
      {v : Value} {gs : List Guard} :
      Leaves d scope (.loop c ns rounds .null) m v gs m' →
      Leaves (d + 1) scope (.node (.whileLoop c ns)) m v gs m'
  | forLoop {d scope : Nat} {m m₁ m' : Machine} {name : String} {x : Node}
      {ns : List Node} {w v : Value} {st : Stage} {gs : List Guard} :
      eval rounds d x scope m = .ok w m₁ → Stage.ofIterable? m₁ name ns w = some st →
      Leaves d scope st m₁ v gs m' → Leaves (d + 1) scope (.node (.forLoop name x ns)) m v gs m'
  | tryBlock {d scope : Nat} {m m' : Machine} {ns : List Node} {name : Option String}
      {clause last : Option (List Node)} {v : Value} {gs : List Guard} :
      Leaves d scope (.block .null ns) m v gs m' →
      Leaves (d + 1) scope (.node (.trying ns name clause last)) m v
      (gs ++ [⟨d, scope, clause, last⟩]) m'
  | tryCatch {d scope inner : Nat} {m m₁ m₂ m' : Machine} {ns ks : List Node}
      {k : Node} {name : Option String} {last : Option (List Node)} {e : Signal}
      {v : Value} {gs : List Guard} :
      (eval rounds d).block scope .null ns m = .error e m₁ → e ≠ .unfinished →
      enterCatch scope name e m₁ = .ok inner m₂ →
      Leaves d inner (.block .null (k :: ks)) m₂ v gs m' →
      Leaves (d + 1) scope (.node (.trying ns name (some (k :: ks)) last)) m v
      (gs ++ [⟨d, scope, none, last⟩]) m'
  | tryLast {d scope : Nat} {m m₁ m' : Machine} {ns : List Node} {name : Option String}
      {clause last : Option (List Node)} {ending : Except Signal Value}
      {v : Value} {gs : List Guard} :
      guarded (eval rounds d) scope ns name clause m = .ok ending m₁ → ending ≠ .error .unfinished →
      Leaves d scope (.block .null (last.getD [])) m₁ v gs m' →
      Leaves (d + 1) scope (.node (.trying ns name clause last)) m v gs m'
  | here {d scope : Nat} {m m' : Machine} {n : Node} {ns : List Node}
      {u v : Value} {gs : List Guard} :
      Leaves d scope (.node n) m v gs m' → Leaves d scope (.block u (n :: ns)) m v gs m'
  | later {d scope : Nat} {m m₁ m' : Machine} {n : Node} {ns : List Node}
      {u w v : Value} {gs : List Guard} :
      eval rounds d n scope m = .ok w m₁ → Leaves d scope (.block w ns) m₁ v gs m' →
      Leaves d scope (.block u (n :: ns)) m v gs m'
  | loopHere {d scope k : Nat} {m m₁ m' : Machine} {c : Node} {ns : List Node}
      {b u v : Value} {gs : List Guard} :
      eval rounds d c scope m = .ok b m₁ → b.truthy m₁.scopes = true →
      Leaves d scope (.block u ns) m₁ v gs m' → Leaves d scope (.loop c ns (k + 1) u) m v gs m'
  | loopLater {d scope k : Nat} {m m₁ m₂ m' : Machine} {c : Node} {ns : List Node} {b u w v : Value}
      {gs : List Guard} :
      eval rounds d c scope m = .ok b m₁ → b.truthy m₁.scopes = true →
      (eval rounds d).block scope u ns m₁ = .ok w m₂ → Leaves d scope (.loop c ns k w) m₂ v gs m' →
      Leaves d scope (.loop c ns (k + 1) u) m v gs m'
  | eachHere {d scope : Nat} {m m₁ m' : Machine} {name : String} {ns : List Node} {u item v : Value}
      {items : List Value} {gs : List Guard} :
      Run.define scope name item m = .ok () m₁ → Leaves d scope (.block u ns) m₁ v gs m' →
      Leaves d scope (.each name ns u (item :: items)) m v gs m'
  | eachLater {d scope : Nat} {m m₁ m₂ m' : Machine} {name : String}
      {ns : List Node} {u w item v : Value} {items : List Value} {gs : List Guard} :
      Run.define scope name item m = .ok () m₁ → (eval rounds d).block scope u ns m₁ = .ok w m₂ →
      Leaves d scope (.each name ns w items) m₂ v gs m' →
      Leaves d scope (.each name ns u (item :: items)) m v gs m'
  | eachNameHere {d scope id size left : Nat} {m m₁ m' : Machine} {name x : String} {ns : List Node}
      {u w v : Value} {gs : List Guard} :
      (m.scopes.bindingsOf id).length = size →
      (m.scopes.bindingsOf id)[size - (left + 1)]? = some (x, w) →
      Run.define scope name (.text x) m = .ok () m₁ → Leaves d scope (.block u ns) m₁ v gs m' →
      Leaves d scope (.eachName name ns id size (left + 1) u) m v gs m'
  | eachNameLater {d scope id size left : Nat} {m m₁ m₂ m' : Machine}
      {name x : String} {ns : List Node} {u w z v : Value} {gs : List Guard} :
      (m.scopes.bindingsOf id).length = size →
      (m.scopes.bindingsOf id)[size - (left + 1)]? = some (x, w) →
      Run.define scope name (.text x) m = .ok () m₁ →
      (eval rounds d).block scope u ns m₁ = .ok z m₂ →
      Leaves d scope (.eachName name ns id size left z) m₂ v gs m' →
      Leaves d scope (.eachName name ns id size (left + 1) u) m v gs m'

/-- The last clauses of the guards are run, the innermost first, and all of them complete. -/
inductive Finishes : List Guard → Machine → Machine → Prop where
  | nil {m : Machine} : Finishes [] m m
  | cons {g : Guard} {gs : List Guard} {m m₁ m' : Machine} {w : Value} :
      (eval rounds g.depth).block g.scope .null (g.last.getD []) m = .ok w m₁ → Finishes gs m₁ m' →
      Finishes (g :: gs) m m'

end

section

variable {rounds d scope : Nat} {m m' m'' : Machine} {v : Value} {gs : List Guard}
  {g : Guard} {st : Stage}

theorem Finishes.of_append_singleton (h : Finishes rounds (gs ++ [g]) m m'') :
    ∃ m₁ w, Finishes rounds gs m m₁ ∧
      (eval rounds g.depth).block g.scope .null (g.last.getD []) m₁ = .ok w m'' := by
  induction gs generalizing m with
  | nil =>
    cases h with
    | cons hb h =>
      cases h
      exact ⟨_, _, .nil, hb⟩
  | cons x gs ih =>
    cases h with
    | cons hb h =>
      obtain ⟨m₁, w, hf, hg⟩ := ih h
      exact ⟨m₁, w, .cons hb hf, hg⟩

theorem Leaves.run_eq (h : Leaves rounds d scope st m v gs m') (ho : ∀ g ∈ gs, g.Open)
    (hf : Finishes rounds gs m' m'') :
    st.run (eval rounds d) scope m = .error (.returned v) m'' := by
  induction h generalizing m'' with
  | bare =>
    cases hf
    rfl
  | absent hp =>
    cases hf
    change (if present _ = true then _ else _ : Run Value) _ = _
    rw [if_neg (by simp [hp])]
    rfl
  | value hp he =>
    cases hf
    change (if present _ = true then _ else _ : Run Value) _ = _
    rw [if_pos hp, Run.bind_ok he]
    rfl
  | conditional hc _ ih => exact (step_conditional rounds hc).trans (ih ho hf)
  | whileLoop _ ih => exact ih ho hf
  | forLoop hx hst _ ih => exact ((Run.bind_ok hx).trans (Stage.iterate_eq hst)).trans (ih ho hf)
  | tryBlock _ ih =>
    obtain ⟨m₁, w, hgs, hlast⟩ := hf.of_append_singleton
    obtain ⟨hopen, hg⟩ := List.forall_mem_append.mp ho
    exact attempt_open (hg _ List.mem_cons_self) (by simp) (ih hopen hgs) hlast
  | @tryCatch d scope inner m m₁ m₂ m' ns ks k name last e v gs hb he hin _ ih =>
    obtain ⟨m₃, w, hgs, hlast⟩ := hf.of_append_singleton
    obtain ⟨hopen, -⟩ := List.forall_mem_append.mp ho
    have hclause :
        (enterCatch scope name e >>= fun inner => (eval rounds d).block inner .null (k :: ks)) m₁ =
          .error (.returned v) m₃ := (Run.bind_ok hin).trans (ih hopen hgs)
    calc attempt (eval rounds d) scope ns name (some (k :: ks)) last m
        = caught (eval rounds d) scope name last e (k :: ks) m₁ := attempt_caught he hb
      _ = settle (eval rounds d) scope last (.error (.returned v)) m₃ :=
          Run.bind_ok (Run.capture_error hclause)
      _ = .error (.returned v) m'' := settle_error (by simp) hlast
  | tryLast hg hne _ ih => exact attempt_last hg hne (ih ho hf)
  | here _ ih => exact Run.bind_error (ih ho hf)
  | later hn _ ih => exact (Run.bind_ok hn).trans (ih ho hf)
  | loopHere hc hb _ ih => exact (loop_round hc hb).trans (Run.bind_error (ih ho hf))
  | loopLater hc hb hn _ ih => exact (loop_round hc hb).trans ((Run.bind_ok hn).trans (ih ho hf))
  | eachHere hd _ ih => exact (Run.bind_ok hd).trans (Run.bind_error (ih ho hf))
  | eachLater hd hb _ ih => exact (Run.bind_ok hd).trans ((Run.bind_ok hb).trans (ih ho hf))
  | eachNameHere hs hx hd _ ih => exact (eachName_round hs hx hd).trans (Run.bind_error (ih ho hf))
  | eachNameLater hs hx hd hb _ ih =>
    exact (eachName_round hs hx hd).trans ((Run.bind_ok hb).trans (ih ho hf))

/-- Binds the arguments of a call in a scope of its own. -/
def enterCall (c : Closure) (args : List Value) : Run Nat := do
  let inner ← Run.callScope c.scope
  bind inner c.parameters args
  return inner

theorem call_function (ev : Evaluator) (l : Nat) (c : Closure) (args : List Value) :
    call ev (.function l c) args = enterCall c args >>= fun inner => body ev inner c.body := by
  simp [call, enterCall]

/-- A call enters the body of a function. -/
inductive Enters (rounds d : Nat) (f : Node) (xs : List Node) (scope : Nat)
    (m : Machine) (c : Closure) (inner : Nat) (m' : Machine) : Prop where
  | intro {l : Nat} {m₁ m₂ : Machine} {args : List Value} :
      eval rounds d f scope m = .ok (.function l c) m₁ →
        all (eval rounds d) scope xs m₁ = .ok args m₂ →
      enterCall c args m₂ = .ok inner m' → Enters rounds d f xs scope m c inner m'

theorem Enters.eval_call {f : Node} {xs : List Node} {c : Closure} {inner : Nat}
    (h : Enters rounds d f xs scope m c inner m') :
    eval rounds (d + 1) (.call f xs) scope m = body (eval rounds d) inner c.body m' := by
  obtain ⟨hf, hargs, hin⟩ := h
  calc eval rounds (d + 1) (.call f xs) scope m
      = (all (eval rounds d) scope xs >>= call (eval rounds d) (.function _ c)) _ := Run.bind_ok hf
    _ = call (eval rounds d) (.function _ c) _ _ := Run.bind_ok hargs
    _ = (enterCall c _ >>= fun inner => body (eval rounds d) inner c.body) _ := by
      rw [call_function]
    _ = body (eval rounds d) inner c.body m' := Run.bind_ok hin

theorem body_returned {ev : Evaluator} {ns : List Node}
    (h : ev.block scope .null ns m = .error (.returned v) m') :
    body ev scope ns m = .ok v m' := Run.bind_ok (Run.capture_error h)

/-- A return inside attempts that catch nothing leaves the function: the call has its value, and
after it nothing is run but the last clauses of those attempts. An attempt that has a catch clause
catches a return like any error. -/
theorem return_leaves (rounds d : Nat) :
    (∀ {f : Node} {xs : List Node} {scope inner : Nat} {m m₁ m₂ m₃ : Machine}
      {c : Closure} {v : Value}
        {gs : List Guard}, Enters rounds d f xs scope m c inner m₁ →
        Leaves rounds d inner (.block .null c.body) m₁ v gs m₂ → (∀ g ∈ gs, g.Open) →
        Finishes rounds gs m₂ m₃ →
        eval rounds (d + 1) (.call f xs) scope m = .ok v m₃) ∧
      ∀ {ns ks : List Node} {n : Node} {name : Option String}
        {last : Option (List Node)} {scope : Nat} {m m₁ m₂ : Machine} {v : Value} {gs : List Guard},
        Leaves rounds d scope (.block .null ns) m v gs m₁ → (∀ g ∈ gs, g.Open) →
        Finishes rounds gs m₁ m₂ →
        eval rounds (d + 1) (.trying ns name (some (n :: ks)) last) scope m =
          caught (eval rounds d) scope name last (.returned v) (n :: ks) m₂ := by
  constructor
  · intro f xs scope inner m m₁ m₂ m₃ c v gs henter hleave hopen hfinish
    rw [henter.eval_call]
    exact body_returned (hleave.run_eq hopen hfinish)
  · intro ns ks n name last scope m m₁ m₂ v gs hleave hopen hfinish
    exact attempt_caught (by simp) (hleave.run_eq hopen hfinish)

/-- A return of 1 out of a loop and an attempt, whose last clause is run then. -/
def loopReturn : List Node :=
  [.whileLoop (.boolean (.bool true))
    [.trying [.returning (some (.number (.int 1)))] none none (some [.number (.int 2)])]]

theorem leaves_loopReturn (scope : Nat) (m : Machine) :
    Leaves 1 4 scope (.block .null loopReturn) m (.int 1)
      [⟨2, scope, none, some [.number (.int 2)]⟩] m :=
  .here (.whileLoop (.loopHere rfl rfl (.here (.tryBlock (.here (.value rfl rfl))))))

/-- A return of 1 in an attempt that goes on with 2. -/
def caughtReturn : Node :=
  .trying [.returning (some (.number (.int 1)))] none (some [.number (.int 2)]) none

theorem return_leaves_loop_not_catch :
    (∃ m, eval 1 5 (.call (.function none [] loopReturn false) []) Machine.globals Machine.initial =
        .ok (.int 1) m) ∧
      ∃ m, eval 1 3 caughtReturn Machine.globals Machine.initial = .ok (.int 2) m := by
  constructor
  · have henter : Enters 1 4 (.function none [] loopReturn false) [] Machine.globals Machine.initial
        ⟨[], loopReturn, Machine.globals, false⟩ _ _ := .intro rfl rfl rfl
    exact ⟨_, (return_leaves 1 4).1 henter (leaves_loopReturn _ _)
      (by simp [Guard.Open]) (.cons rfl .nil)⟩
  · have hleave :
        Leaves 1 2 Machine.globals
          (.block .null [.returning (some (.number (.int 1)))]) Machine.initial
        (.int 1) [] Machine.initial := .here (.value rfl rfl)
    exact ⟨_, ((return_leaves 1 2).2 hleave (by simp) .nil).trans rfl⟩

end

end FloScript
