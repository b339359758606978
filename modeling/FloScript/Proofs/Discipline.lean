import FloScript.Proofs.CalmFaults
import FloScript.Proofs.EndStates
import FloScript.Proofs.Leaving
import FloScript.Proofs.NodeParts
import FloScript.Proofs.ScopeGraph

/-! Disciplines for evaluation. A discipline says which nodes are met, which machines come up, what
values may refer to and which signals end a step. Its laws are about single steps; that sequences of
steps, operators and routines keep to it follows for all disciplines alike. Two steps that keep to
one are compared as well: they do the same on every machine that comes up. -/
namespace FloScript

/-- What evaluation is held to. Scopes are counted: a value that may be there when there are `n`
scopes may also be there when there are more, and a step that is made in the scope `own` may change
more in that scope than elsewhere. -/
structure Discipline where
  /-- The nodes that are met. -/
  node : Node → Prop
  /-- The signals that end a step. -/
  signal : Signal → Prop
  /-- The machines that come up. -/
  fit : Machine → Prop
  /-- The number of scopes that count. -/
  extent : Machine → Nat
  /-- The scopes in which nodes are evaluated. -/
  inside : Nat → Nat → Prop
  /-- What a function, a scope or its bindings may be. -/
  refers : Nat → Value → Prop
  /-- What a step may do to a machine. -/
  moves : Nat → Machine → Machine → Prop
  -- more scopes leave more room
  inside_mono : ∀ {id n k}, inside id n → n ≤ k → inside id k
  refers_mono : ∀ {n k v}, refers n v → n ≤ k → refers k v
  -- steps are made one after the other, and in a new scope nothing counts for the one outside of it
  moves_refl : ∀ own m, moves own m m
  moves_trans : ∀ {own m₁ m₂ m₃}, moves own m₁ m₂ → moves own m₂ m₃ → moves own m₁ m₃
  moves_new : ∀ {own id m₁ m₂ m₃}, moves own m₁ m₂ → m₁.scopes.size ≤ id → moves id m₂ m₃ →
    moves own m₁ m₃
  extent_mono : ∀ {own m₁ m₂}, moves own m₁ m₂ → extent m₁ ≤ extent m₂
  -- what is read from a machine
  globals : ∀ {m}, fit m → inside Machine.globals (extent m)
  closure : ∀ {n l c}, refers n (.function l c) → inside c.scope n
  inherited : ∀ {m}, fit m → Value.Inherited (refers (extent m)) m.scopes
  found : ∀ {m id name v}, fit m → inside id (extent m) → m.scopes.get id name = .ok v →
    v.Holding (refers (extent m))
  waiting : ∀ {m} (id : Nat) {v}, fit m → m.tasks[id]? = some (some v) →
    v.Holding (refers (extent m))
  -- what is changed in a machine
  kept : ∀ own {m m'}, fit m → m'.scopes = m.scopes →
    (∀ (id : Nat) v, m'.tasks[id]? = some (some v) → v.Holding (refers (extent m))) → fit m' ∧
    moves own m m'
  defined : ∀ own name {m v}, fit m → v.Holding (refers (extent m)) →
    fit { m with scopes := m.scopes.define own name v } ∧
    moves own m { m with scopes := m.scopes.define own name v }
  assigned : ∀ own {id name m v ss}, fit m → inside id (extent m) → v.Holding (refers (extent m)) →
    m.scopes.assign id name v = .ok ss → fit { m with scopes := ss } ∧
    moves own m { m with scopes := ss }
  opened : ∀ own {p m}, fit m → inside p (extent m) →
    let m' : Machine := { m with scopes := m.scopes.push ⟨some p, []⟩ }
    fit m' ∧ moves own m m' ∧ inside m.scopes.size (extent m')
  -- what comes of a node
  calm : ∀ f : Fault, f.isCalm = true → signal (.fault f)
  unfinished : signal .unfinished
  evaluated : ∀ t, node t → ∀ k ∈ t.evaluated, node k
  function : ∀ {name ps ns isAsync own n}, node (.function name ps ns isAsync) → inside own n →
    ∀ l, refers n (.function l ⟨ps, ns, own, isAsync⟩)
  returning : ∀ x, node (.returning x) → ∀ v, signal (.returned v)
  binary : ∀ l op r, node (.binary l op r) → Operator.ofText? op = none →
    signal (.fault (.runtime (.unknownOperator op)))
  unary : ∀ op x, node (.unary op x) → op ≠ "-" → op ≠ "!" →
    signal (.fault (.runtime (.unknownUnaryOperator op)))
  unhandled : ∀ t, node t → t.isHandled = false →
    signal (.fault (.runtime (.unknownNode t.typeName)))

namespace Discipline

variable (D : Discipline) {α β : Type} {m m' : Machine} {own n k id : Nat}
  {name : String} {v w : Value} {vs : List Value} {x y : Run α} {f g : α → Run β}
  {Q : Nat → α → Prop} {R : Nat → β → Prop} {e : Signal}

/-- Everything that the value refers to may be there when there are `n` scopes. -/
def Good (n : Nat) (v : Value) : Prop := v.Holding (D.refers n)

/-- The same of all values of a list. -/
def AllGood (n : Nat) (vs : List Value) : Prop := ∀ v ∈ vs, D.Good n v

/-- The same of all keys and values of entries. -/
def EntriesGood (n : Nat) (es : List (Value × Value)) : Prop := Value.EntriesHolding (D.refers n) es

/-- The signal may end a step, and so may the value that it carries. -/
def Allows (n : Nat) (e : Signal) : Prop := D.signal e ∧ ∀ v, e = .returned v → D.Good n v

/-- An ending with a value as demanded or a signal that is allowed. -/
def Ends (Q : Nat → α → Prop) (n : Nat) : Except Signal α → Prop
  | .ok a => Q n a
  | .error e => D.Allows n e

/-- The same of a step, for the machine after it. -/
def Result (Q : Nat → α → Prop) : EStateM.Result Signal Machine α → Prop
  | .ok a m => Q (D.extent m) a
  | .error e m => D.Allows (D.extent m) e

/-- Two steps in the scope `own` do the same on machines that come up with at least `n` scopes, and
keep to the discipline. -/
def Keeps (own n : Nat) (Q : Nat → α → Prop) (x y : Run α) : Prop :=
  ∀ m, D.fit m → n ≤ D.extent m →
    x m = y m ∧ D.fit (endState x m) ∧ D.moves own m (endState x m) ∧ D.Result Q (x m)

/-- A step keeps to the discipline. -/
abbrev Obeys (own n : Nat) (Q : Nat → α → Prop) (x : Run α) : Prop := D.Keeps own n Q x x

variable {D}

theorem Good.mono (h : D.Good n v) (hk : n ≤ k) : D.Good k v :=
  Value.Holding.mono h fun _ hr => D.refers_mono hr hk

theorem AllGood.mono (h : D.AllGood n vs) (hk : n ≤ k) : D.AllGood k vs :=
  fun v hv => (h v hv).mono hk

theorem EntriesGood.mono {es : List (Value × Value)} (h : D.EntriesGood n es) (hk : n ≤ k) :
    D.EntriesGood k es :=
  fun e he => ⟨Good.mono (h e he).1 hk, Good.mono (h e he).2 hk⟩

theorem Allows.mono (h : D.Allows n e) (hk : n ≤ k) : D.Allows k e :=
  ⟨h.1, fun v hv => (h.2 v hv).mono hk⟩

theorem Result.ne_error (h : D.Result Q (x m)) (he : ¬ D.signal e) : x m ≠ .error e m' := by
  intro hr
  rw [hr] at h
  exact he h.1

section Rules

theorem keeps_bind (hx : D.Keeps own n Q x y)
    (hf : ∀ a k, n ≤ k → Q k a → D.Keeps own k R (f a) (g a)) :
    D.Keeps own n R (x >>= f) (y >>= g) := by
  intro m hm hle
  obtain ⟨heq, hfit, hmoves, hres⟩ := hx m hm hle
  cases hr : x m with
  | ok a m' =>
    rw [hr] at heq hres
    rw [endState_of_ok hr] at hfit hmoves
    obtain ⟨heq', hfit', hmoves', hres'⟩ :=
      hf a _ (Nat.le_trans hle (D.extent_mono hmoves)) hres m' hfit (Nat.le_refl _)
    rw [Run.bind_ok hr, Run.bind_ok heq.symm, endState_bind_of_ok hr]
    exact ⟨heq', hfit', D.moves_trans hmoves hmoves', hres'⟩
  | error e m' =>
    rw [hr] at heq hres
    rw [endState_of_error hr] at hfit hmoves
    rw [Run.bind_error hr, Run.bind_error heq.symm, endState_bind_of_error hr]
    exact ⟨rfl, hfit, hmoves, hres⟩

theorem obeys_pure {a : α} (h : ∀ k, n ≤ k → Q k a) : D.Obeys own n Q (pure a) :=
  fun m hm hle => ⟨rfl, hm, D.moves_refl own m, h _ hle⟩

theorem obeys_value (h : D.Good n v) : D.Obeys own n D.Good (pure v) :=
  obeys_pure fun _ hk => h.mono hk

theorem obeys_throw (h : D.Allows n e) : D.Obeys own n Q (throw e) :=
  fun m hm hle => ⟨rfl, hm, D.moves_refl own m, h.mono hle⟩

theorem allows_fault {f : Fault} (h : D.signal (.fault f)) : D.Allows n (.fault f) := ⟨h, nofun⟩

theorem allows_unfinished : D.Allows n .unfinished := ⟨D.unfinished, nofun⟩

theorem allows_returned (hs : D.signal (.returned v)) (hv : D.Good n v) :
    D.Allows n (.returned v) := by
  refine ⟨hs, ?_⟩
  rintro _ ⟨rfl⟩
  exact hv

theorem obeys_fail {f : Fault} (h : f.isCalm = true) : D.Obeys own n Q (Run.fail f) :=
  obeys_throw (allows_fault (D.calm f h))

theorem obeys_lift {r : Except Fault α} (hr : Calm r) (h : ∀ a, r = .ok a → ∀ k, n ≤ k → Q k a) :
    D.Obeys own n Q (Run.lift r) := by
  cases r with
  | ok a => exact obeys_pure (h a rfl)
  | error e => exact obeys_fail (hr e rfl)

theorem obeys_bind_lift {r : Except Fault α} (hr : Calm r) (hf : ∀ a, D.Keeps own n R (f a) (g a)) :
    D.Keeps own n R (Run.lift r >>= f) (Run.lift r >>= g) := by
  cases r with
  | ok a => exact hf a
  | error e => exact obeys_fail (hr e rfl)

theorem obeys_get : D.Obeys own n (fun k m => D.fit m ∧ D.extent m = k) get :=
  fun m hm _ => ⟨rfl, hm, D.moves_refl own m, hm, rfl⟩

theorem obeys_scopes : D.Obeys own n (fun k ss => Value.Inherited (D.refers k) ss) Run.scopes :=
  fun m hm _ => ⟨rfl, hm, D.moves_refl own m, D.inherited hm⟩

theorem endState_capture (x : Run α) (m : Machine) : endState (Run.capture x) m = endState x m := by
  cases h : x m <;> simp [endState, Run.capture, h]

theorem keeps_capture (hx : D.Keeps own n Q x y) :
    D.Keeps own n (D.Ends Q) (Run.capture x) (Run.capture y) := by
  intro m hm hle
  obtain ⟨heq, hfit, hmoves, hres⟩ := hx m hm hle
  rw [endState_capture]
  refine ⟨?_, hfit, hmoves, ?_⟩
  · unfold Run.capture
    rw [heq]
  · unfold Run.capture
    cases hr : x m with
    | ok a m' | error e m' =>
      rw [hr] at hres
      exact hres

theorem obeys_release {r : Except Signal α} (h : ∀ k, n ≤ k → D.Ends Q k r) :
    D.Obeys own n Q (Run.release r) := by
  cases r with
  | ok a => exact obeys_pure h
  | error e => exact obeys_throw (h n (Nat.le_refl n))

theorem Ends.mono {r : Except Signal Value} (h : D.Ends D.Good n r) (hk : n ≤ k) :
    D.Ends D.Good k r := by
  cases r with
  | ok v => exact Good.mono h hk
  | error e => exact Allows.mono h hk

end Rules

section Steps

/-- A step that always gives a value. -/
theorem obeys_step (h : ∀ m, D.fit m → n ≤ D.extent m →
    ∃ a m', x m = .ok a m' ∧ (D.fit m' ∧ D.moves own m m') ∧ Q (D.extent m') a) :
    D.Obeys own n Q x := by
  intro m hm hle
  obtain ⟨a, m', hr, ⟨hfit, hmoves⟩, ha⟩ := h m hm hle
  rw [endState_of_ok hr, hr]
  exact ⟨rfl, hfit, hmoves, ha⟩

theorem obeys_write (s : String) : D.Obeys own n (fun _ _ => True) (Run.write s) :=
  obeys_step fun _ hm _ => ⟨_, _, rfl, D.kept own hm rfl fun i _ => D.waiting i hm, trivial⟩

theorem obeys_label : D.Obeys own n (fun _ _ => True) Run.label :=
  obeys_step fun _ hm _ => ⟨_, _, rfl, D.kept own hm rfl fun i _ => D.waiting i hm, trivial⟩

theorem obeys_task (r : Native) (hv : D.Good n v) :
    D.Obeys own n D.Good (Native.newTask.task r v) := by
  refine obeys_step fun m hm hle =>
    ⟨_, _, rfl, D.kept own hm rfl fun i w hw => ?_, Value.holding_task⟩
  simp only [Array.getElem?_push] at hw
  split at hw
  · cases hw
    exact hv.mono hle
  · exact D.waiting i hm hw

theorem obeys_takeTask (id : Nat) : D.Obeys own n (fun _ _ => True)
    (modify fun m => { m with tasks := m.tasks.setIfInBounds id none } : Run Unit) := by
  refine obeys_step fun m hm hle =>
    ⟨_, _, rfl, D.kept own hm rfl fun i w hw => D.waiting i hm ?_, trivial⟩
  simp only [Array.getElem?_setIfInBounds] at hw
  split at hw
  · split at hw <;> cases hw
  · exact hw

/-- Binding a name in the own scope. -/
theorem obeys_define (hv : D.Good n v) : D.Obeys own n (fun _ _ => True) (Run.define own name v) :=
  obeys_step fun _ hm hle => ⟨_, _, rfl, D.defined own name hm (hv.mono hle), trivial⟩

theorem obeys_assign (hid : D.inside id n) (hv : D.Good n v) :
    D.Obeys own n (fun _ _ => True) (Run.assign id name v) := by
  intro m hm hle
  have hread : Run.scopes m = .ok m.scopes m := rfl
  cases hss : m.scopes.assign id name v with
  | ok ss =>
    have hrun : Run.assign id name v m = .ok () { m with scopes := ss } := by
      refine (Run.bind_ok hread).trans ?_
      rw [hss]
      rfl
    obtain ⟨hfit, hmoves⟩ := D.assigned own hm (D.inside_mono hid hle) (hv.mono hle) hss
    rw [endState_of_ok hrun, hrun]
    exact ⟨rfl, hfit, hmoves, trivial⟩
  | error e =>
    have hrun : Run.assign id name v m = .error (.fault e) m := by
      refine (Run.bind_ok hread).trans ?_
      rw [hss]
      rfl
    rw [endState_of_error hrun, hrun]
    exact ⟨rfl, hm, D.moves_refl own m, allows_fault (D.calm e (calm_assign id v e hss))⟩

theorem obeys_lookup (hid : D.inside id n) : D.Obeys own n D.Good (Run.lookup id name) := by
  intro m hm hle
  have hrun : Run.lookup id name m = Run.lift (m.scopes.get id name) m := rfl
  cases hv : m.scopes.get id name with
  | ok v =>
    rw [hv] at hrun
    rw [endState_of_ok hrun, hrun]
    exact ⟨rfl, hm, D.moves_refl own m, D.found hm (D.inside_mono hid hle) hv⟩
  | error e =>
    rw [hv] at hrun
    rw [endState_of_error hrun, hrun]
    exact ⟨rfl, hm, D.moves_refl own m, allows_fault (D.calm e (calm_get id e hv))⟩

/-- What is done in a scope made for it counts as done there, and not in the scope outside. -/
theorem keeps_open {mk : Run Nat} {f g : Nat → Run β}
    (hmk : ∀ m, D.fit m → n ≤ D.extent m → ∃ id m', mk m = .ok id m' ∧ D.fit m' ∧ D.moves own m m' ∧
      m.scopes.size ≤ id ∧ D.inside id (D.extent m'))
    (hf : ∀ id k, n ≤ k → D.inside id k → D.Keeps id k R (f id) (g id)) :
    D.Keeps own n R (mk >>= f) (mk >>= g) := by
  intro m hm hle
  obtain ⟨id, m', hr, hfit, hmoves, hnew, hid⟩ := hmk m hm hle
  obtain ⟨heq, hfit', hmoves', hres⟩ :=
    hf id _ (Nat.le_trans hle (D.extent_mono hmoves)) hid m' hfit (Nat.le_refl _)
  rw [Run.bind_ok hr, Run.bind_ok hr, endState_bind_of_ok hr]
  exact ⟨heq, hfit', D.moves_new hmoves hnew hmoves', hres⟩

theorem keeps_newScope {f g : Nat → Run β} (hown : D.inside own n)
    (hf : ∀ id k, n ≤ k → D.inside id k → D.Keeps id k R (f id) (g id)) :
    D.Keeps own n R (Run.newScope (some own) >>= f) (Run.newScope (some own) >>= g) := by
  refine keeps_open (fun m hm hle => ?_) hf
  obtain ⟨hfit, hmoves, hid⟩ := D.opened own hm (D.inside_mono hown hle)
  exact ⟨_, _, rfl, hfit, hmoves, Nat.le_refl _, hid⟩

/-- The scope of a call is the second of two new ones, and never was anywhere but below the
function's own scope. -/
theorem keeps_callScope {f g : Nat → Run β} {p : Nat} (hp : D.inside p n)
    (hf : ∀ id k, n ≤ k → D.inside id k → D.Keeps id k R (f id) (g id)) :
    D.Keeps own n R (Run.callScope p >>= f) (Run.callScope p >>= g) := by
  refine keeps_open (fun m hm hle => ?_) hf
  let outer : Scopes := m.scopes.push ⟨some Machine.globals, []⟩
  have hsize : outer.size = m.scopes.size + 1 := Array.size_push _
  have hmoved :
      Scopes.reparent outer.size (some p) (outer.push ⟨some m.scopes.size, []⟩) =
        outer.push ⟨some p, []⟩ :=
    Scopes.reparent_push _
  have hrun : Run.callScope p m = .ok outer.size { m with scopes := outer.push ⟨some p, []⟩ } := by
    rw [← hmoved]
    rfl
  obtain ⟨hfit, hmoves, -⟩ := D.opened own hm (D.globals hm)
  have hle' := Nat.le_trans hle (D.extent_mono hmoves)
  obtain ⟨hfit', hmoves', hid⟩ := D.opened own hfit (D.inside_mono hp hle')
  exact ⟨_, _, hrun, hfit', D.moves_trans hmoves hmoves', by omega, hid⟩

end Steps

section Values

theorem obeys_ofNumber (x : Number) : D.Obeys own n D.Good (Run.ofNumber x) := by
  cases x with
  | int i => exact obeys_value Value.holding_int
  | float x =>
    simp only [Run.ofNumber]
    split
    · exact keeps_bind obeys_label fun _ _ _ _ => obeys_value Value.holding_nan
    · exact obeys_value Value.holding_float

theorem obeys_arithmetic (op : String) {rule : Number → Number → Except Fault Number}
    (h : ∀ a b, Calm (rule a b)) : D.Obeys own n D.Good (Value.arithmetic op rule v w) := by
  unfold Value.arithmetic
  split
  · exact obeys_bind_lift (h _ _) fun x => obeys_ofNumber x
  · exact obeys_fail rfl

/-- A value worked out from the scopes. -/
theorem obeys_read {r : Scopes → Except Fault Value} (hr : ∀ ss, Calm (r ss))
    (h : ∀ ss k, n ≤ k → Value.Inherited (D.refers k) ss → ∀ v, r ss = .ok v → D.Good k v) :
    D.Obeys own n D.Good (Run.scopes >>= fun ss => Run.lift (r ss)) :=
  keeps_bind obeys_scopes fun ss k hk hs =>
    obeys_lift (hr ss) fun v hv _ hj => (h ss k hk hs v hv).mono hj

/-- A value that refers to nothing, worked out from the scopes. -/
theorem obeys_show {r : Scopes → Except Fault α} {h : α → Value} (hr : ∀ ss, Calm (r ss))
    (hplain : ∀ k a, D.Good k (h a)) :
    D.Obeys own n D.Good (Run.scopes >>= fun ss => Run.lift (r ss) >>= fun a => pure (h a)) :=
  keeps_bind obeys_scopes fun ss k _ _ => obeys_bind_lift (hr ss) fun a => obeys_value (hplain k a)

theorem obeys_plus (hv : D.Good n v) (hw : D.Good n w) : D.Obeys own n D.Good (v.plus w) := by
  unfold Value.plus
  split
  · exact obeys_value Value.holding_text
  · exact obeys_value
      (Value.holding_list.mpr
        (Value.holding_append (Value.holding_list.mp hv) (Value.holding_list.mp hw)))
  · exact obeys_value
      (Value.holding_tuple.mpr
        (Value.holding_append (Value.holding_tuple.mp hv) (Value.holding_tuple.mp hw)))
  · exact obeys_fail rfl
  · exact obeys_fail rfl
  · exact obeys_fail rfl
  · exact obeys_arithmetic _ calm_add

theorem obeys_replicate {count : Int} (hv : D.Good n v) :
    D.Obeys own n D.Good (Run.lift (v.replicate count)) :=
  obeys_lift (calm_replicate v count) fun _ hr _ hk => Good.mono (Value.holding_replicate hv hr) hk

theorem obeys_times (hv : D.Good n v) (hw : D.Good n w) : D.Obeys own n D.Good (v.times w) := by
  unfold Value.times
  split
  · split
    · exact obeys_replicate hv
    · exact obeys_fail rfl
  · split
    · split
      · exact obeys_replicate hw
      · exact obeys_fail rfl
    · exact obeys_arithmetic _ calm_mul

theorem obeys_remainder : D.Obeys own n D.Good (v.remainder w) := by
  unfold Value.remainder
  split
  · exact obeys_show (fun _ => Percent.calm_format _) fun _ _ => Value.holding_text
  · exact obeys_arithmetic _ calm_rem

theorem obeys_apply (op : Operator) (hv : D.Good n v) (hw : D.Good n w) :
    D.Obeys own n D.Good (Value.apply op v w) := by
  cases op with
  | add => exact obeys_plus hv hw
  | sub => exact obeys_arithmetic _ calm_sub
  | mul => exact obeys_times hv hw
  | div => exact obeys_arithmetic _ calm_div
  | rem => exact obeys_remainder
  | eq | ne => exact obeys_show (fun _ => calm_equalWithin _ _ _) fun _ _ => Value.holding_bool
  | compare c => exact obeys_show (fun _ => calm_orderWithin c _ _ _) fun _ _ => Value.holding_bool
  | both | either =>
    refine keeps_bind obeys_scopes fun ss k hk _ => obeys_value ?_
    split
    · first | exact hw.mono hk | exact hv.mono hk
    · first | exact hv.mono hk | exact hw.mono hk

theorem obeys_negate : D.Obeys own n D.Good v.negate := by
  unfold Value.negate
  split
  · exact obeys_ofNumber _
  · exact obeys_fail rfl

end Values

section Routines

theorem obeys_single (r : Native) (h : D.AllGood n vs) : D.Obeys own n D.Good (r.single vs) := by
  unfold Native.single
  split
  · exact obeys_value (h _ List.mem_cons_self)
  · exact obeys_fail rfl
  · exact obeys_fail rfl

theorem obeys_printAll (first : Bool) (vs : List Value) :
    D.Obeys own n (fun _ _ => True) (Native.printAll first vs) := by
  induction vs generalizing first n with
  | nil => exact obeys_write _
  | cons v vs ih =>
    have hrest (k : Nat) :
        D.Obeys own k (fun _ _ => True) (Run.scopes >>= fun ss => Run.lift (v.display ss) >>=
          fun s => Run.write s >>= fun _ => Native.printAll false vs) := by
      refine keeps_bind obeys_scopes fun ss _ _ _ => obeys_bind_lift (calm_display v) fun s => ?_
      exact keeps_bind (obeys_write s) fun _ _ _ _ => ih false
    cases first with
    | true => exact hrest n
    | false => exact keeps_bind (obeys_write _) fun _ k _ _ => hrest k

theorem obeys_toFloat : D.Obeys own n D.Good (Native.toFloat v) := by
  unfold Native.toFloat
  split
  · split
    · exact obeys_ofNumber _
    · exact obeys_fail rfl
  · exact obeys_value Value.holding_nan
  · split
    · exact obeys_bind_lift (calm_toFloat _) fun x => obeys_ofNumber _
    · exact obeys_fail rfl

theorem obeys_newTask (r : Native) (h : D.AllGood n vs) : D.Obeys own n D.Good (r.newTask vs) := by
  unfold Native.newTask
  split
  · exact obeys_task r Value.holding_null
  · exact obeys_task r (h _ List.mem_cons_self)
  · exact obeys_fail rfl

theorem obeys_native (r : Native) (h : D.AllGood n vs) : D.Obeys own n D.Good (r.call vs) := by
  cases r with
  | print => exact keeps_bind (obeys_printAll _ _) fun _ _ _ _ => obeys_value Value.holding_null
  | len =>
    refine keeps_bind (obeys_single _ h) fun v _ _ _ => keeps_bind obeys_scopes fun ss _ _ _ => ?_
    exact obeys_value Value.holding_int
  | str =>
    refine keeps_bind (obeys_single _ h) fun v _ _ _ => ?_
    exact obeys_show (fun _ => calm_display v) fun _ _ => Value.holding_text
  | int =>
    refine keeps_bind (obeys_single _ h) fun v _ _ _ =>
      obeys_bind_lift (calm_toInteger v) fun i => ?_
    exact obeys_value Value.holding_int
  | float => exact keeps_bind (obeys_single _ h) fun v _ _ _ => obeys_toFloat
  | type => exact keeps_bind (obeys_single _ h) fun v _ _ _ => obeys_value Value.holding_text
  | range => exact obeys_lift (calm_rangeOf vs) fun v hv _ _ => Value.holding_rangeOf hv
  | hosted name place => exact obeys_newTask _ h

end Routines

end Discipline
end FloScript
