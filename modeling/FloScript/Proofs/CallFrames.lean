import FloScript.Proofs.Leaving
import FloScript.Proofs.ScopeCells

/-! The scopes of calls. A function is run in a scope made for the call, which holds the arguments
and lies below the scope where the function was made. The scopes there were before a call stay as
they are unless its body assigns. -/
namespace FloScript

namespace Scopes

variable {ss ss' ss'' : Scopes} {s g : Scope} {id p : Nat} {name : String} {v : Value}

/-- Scopes are added, and those there were stay as they are. -/
structure Extends (ss ss' : Scopes) : Prop where
  size : ss.size ≤ ss'.size
  same : ∀ id < ss.size, ss'[id]? = ss[id]?

theorem Extends.trans (h : Extends ss ss') (h' : Extends ss' ss'') : Extends ss ss'' where
  size := Nat.le_trans h.size h'.size
  same id hid := (h'.same id (Nat.lt_of_lt_of_le hid h.size)).trans (h.same id hid)

theorem extends_push (ss : Scopes) (s : Scope) : Extends ss (ss.push s) :=
  ⟨by simp, fun _ hid => getElem?_push_old hid⟩

theorem Extends.getElem? (h : Extends ss ss') (hs : ss[id]? = some s) : ss'[id]? = some s :=
  (h.same id (Array.getElem?_eq_some_iff.mp hs).1).trans hs

section Names

theorem get_own (hs : ss[id]? = some s) (hv : s.bindings.lookup name = some v) :
    ss.get id name = .ok v := by
  have hbinds : s.bindings.binds name = true := by
    rw [← Bindings.isSome_lookup, hv]
    rfl
  have hlocate : ss.locate name (ss.size + 1) id = .ok (id, true) := by simp [locate, hs, hbinds]
  simp [get, hlocate, bindingsOf, hs, hv, bind, Except.bind]

theorem get_parent (hs : ss[id]? = some s) (hfree : s.bindings.lookup name = none)
    (hp : s.parent = some p) (hg : ss[p]? = some g) (hv : g.bindings.lookup name = some v) :
    ss.get id name = .ok v := by
  have hbinds : s.bindings.binds name = false := by
    rw [← Bindings.isSome_lookup, hfree]
    rfl
  have hbound : g.bindings.binds name = true := by
    rw [← Bindings.isSome_lookup, hv]
    rfl
  have hid := (Array.getElem?_eq_some_iff.mp hs).1
  obtain ⟨n, hn⟩ : ∃ n, ss.size = n + 1 := ⟨ss.size - 1, by omega⟩
  have hlocate : ss.locate name (ss.size + 1) id = .ok (p, true) := by
    simp [hn, locate, hs, hbinds, hp, hg, hbound]
  simp [get, hlocate, bindingsOf, hg, hv, bind, Except.bind]

/-- Seen from a scope without a parent, every name is assigned in this scope. -/
theorem assign_root (hs : ss[id]? = some s) (hp : s.parent = none) (name : String) (v : Value) :
    ss.assign id name v = .ok (ss.define id name v) := by
  have hlocate : ss.locate name (ss.size + 1) id = .ok (id, s.bindings.binds name) := by
    cases hb : s.bindings.binds name <;> simp [locate, hs, hb, hp]
  simp [assign, hlocate, bind, Except.bind, pure, Except.pure]

theorem define_push :
    define ss.size name v (ss.push s) = ss.push { s with bindings := s.bindings.put name v } := by
  apply Array.ext_getElem?
  intro id
  rw [getElem?_define, Array.getElem?_push, Array.getElem?_push]
  by_cases hid : id = ss.size
  · subst hid
    simp
  · rw [if_neg (Ne.symm hid), if_neg hid, if_neg hid]

end Names

end Scopes

section Entering

/-- The bindings of parameters to arguments, on top of those there are. -/
def Bindings.arguments : List String → List Value → Bindings → Bindings
  | [], _, bs => bs
  | p :: ps, args, bs => arguments ps args.tail (bs.put p (args.headD .null))

/-- The machine on which a call runs the body of a function. The last scope is the call's own. -/
def Machine.entered (c : Closure) (args : List Value) (m : Machine) : Machine :=
  { m with
    scopes := (m.scopes.push ⟨some globals, []⟩).push
      ⟨some c.scope, Bindings.arguments c.parameters args []⟩ }

/-- The number of a call's own scope. -/
def Machine.frame (m : Machine) : Nat := m.scopes.size + 1

variable {c : Closure} {args : List Value} {m : Machine}

theorem extends_entered : m.scopes.Extends (m.entered c args).scopes :=
  (Scopes.extends_push _ _).trans (Scopes.extends_push _ _)

theorem getElem?_frame :
    (m.entered c args).scopes[m.frame]? =
      some ⟨some c.scope, Bindings.arguments c.parameters args []⟩ := by
  rw [Machine.entered, Array.getElem?_push, Machine.frame, if_pos (Array.size_push _).symm]

theorem Evaluator.bind_eq (ss : Scopes) (s : Scope) (ps : List String)
    (args : List Value) (m : Machine) :
    bind ss.size ps args { m with scopes := ss.push s } =
      .ok () { m with scopes := ss.push { s with bindings := s.bindings.arguments ps args } } := by
  induction ps generalizing s args with
  | nil => rfl
  | cons p ps ih =>
    have hdefine : Run.define ss.size p (args.headD .null) { m with scopes := ss.push s } =
        .ok () { m with
          scopes := ss.push { s with bindings := s.bindings.put p (args.headD .null) } } := by
      rw [← Scopes.define_push]
      rfl
    exact (Run.bind_ok hdefine).trans (ih _ _)

theorem enterCall_eq : enterCall c args m = .ok m.frame (m.entered c args) := by
  let outer : Scopes := m.scopes.push ⟨some Machine.globals, []⟩
  have hsize : outer.size = m.frame := Array.size_push _
  have hmoved : Scopes.reparent outer.size (some c.scope) (outer.push ⟨some m.scopes.size, []⟩) =
      outer.push ⟨some c.scope, []⟩ := Scopes.reparent_push _
  have hscope :
      Run.callScope c.scope m = .ok outer.size
        { m with scopes := outer.push ⟨some c.scope, []⟩ } := by
    rw [← hmoved]
    rfl
  rw [← hsize]
  exact (Run.bind_ok hscope).trans
    (Run.bind_ok (Evaluator.bind_eq outer ⟨some c.scope, []⟩ c.parameters args m))

end Entering

section Expressions

variable {rounds d scope l : Nat} {m m' m₁ m₂ : Machine} {c : Closure}
  {name : String} {v a b : Value} {args : List Value}

theorem eval_identifier (h : m.scopes.get scope name = .ok v) :
    eval rounds (d + 1) (.identifier name) scope m = .ok v m := by
  change Run.lift (m.scopes.get scope name) m = _
  rw [h]
  rfl

theorem eval_parameter (h : (Bindings.arguments c.parameters args []).lookup name = some v) :
    eval rounds (d + 1) (.identifier name) m.frame (m.entered c args) = .ok v (m.entered c args) :=
  eval_identifier (Scopes.get_own getElem?_frame h)

theorem eval_operator {x y : Node} {op : String} {o : Operator} (hop : Operator.ofText? op = some o)
    (hx : eval rounds d x scope m = .ok a m₁) (hy : eval rounds d y scope m₁ = .ok b m₂) :
    eval rounds (d + 1) (.binary x op y) scope m = Value.apply o a b m₂ := by
  refine (Run.bind_ok hx).trans ((Run.bind_ok hy).trans ?_)
  simp only [hop]

theorem eval_call {f : Node} {xs : List Node} (hf : eval rounds d f scope m = .ok v m₁)
    (hargs : Evaluator.all (eval rounds d) scope xs m₁ = .ok args m₂) :
    eval rounds (d + 1) (.call f xs) scope m = Evaluator.call (eval rounds d) v args m₂ :=
  (Run.bind_ok hf).trans (Run.bind_ok hargs)

/-- A call has the value that the body comes to a return of. -/
theorem call_of_leaves
    (h : Leaves rounds d m.frame (.block .null c.body) (m.entered c args) v [] m') :
    Evaluator.call (eval rounds d) (.function l c) args m = .ok v m' := by
  rw [call_function, Run.bind_ok enterCall_eq]
  exact body_returned (h.run_eq (by simp) .nil)

end Expressions

namespace Machine

variable {rounds d l : Nat} {m m' : Machine} {bs : Bindings} {f : String}
  {c : Closure} {x : Node} {v : Value} {args : List Value}

/-- The globals are the given bindings. -/
def Holds (m : Machine) (bs : Bindings) : Prop := m.scopes[globals]? = some ⟨none, bs⟩

theorem Holds.mono (h : m.Holds bs) (hext : m.scopes.Extends m'.scopes) : m'.Holds bs :=
  hext.getElem? h

theorem Holds.eval_name (h : m.Holds bs) (hv : bs.lookup f = some v) :
    eval rounds (d + 1) (.identifier f) globals m = .ok v m := eval_identifier (Scopes.get_own h hv)

theorem Holds.eval_assignment (h : m.Holds bs) (hx : eval rounds d x globals m = .ok v m')
    (hext : m.scopes.Extends m'.scopes) (name : String) :
    ∃ m₁, eval rounds (d + 1) (.assignment name x) globals m = .ok v m₁ ∧
      m₁.Holds (bs.put name v) := by
  have hroot := h.mono hext
  have hlift :
      Run.lift (m'.scopes.assign globals name v) m' = .ok (m'.scopes.define globals name v) m' := by
    rw [Scopes.assign_root hroot rfl]
    rfl
  have hassign :
      Run.assign globals name v m' = .ok () { m' with scopes := m'.scopes.define globals name v } :=
    Run.bind_ok hlift
  refine ⟨_, (Run.bind_ok hx).trans (Run.bind_ok hassign), ?_⟩
  rw [Holds, Scopes.getElem?_define, if_pos rfl, hroot]
  rfl

/-- The value of a call is assigned, where the body of the function changes nothing. -/
theorem Holds.assign_call (rounds d : Nat) (name f : String) (xs : List Node) (h : m.Holds bs)
    (hf : bs.lookup f = some (.function l c))
    (hargs : Evaluator.all (eval rounds (d + 1)) globals xs m = .ok args m)
    (hbody : Leaves rounds (d + 1) m.frame (.block .null c.body) (m.entered c args) v
      [] (m.entered c args)) :
    ∃ m₁, eval rounds (d + 3) (.assignment name (.call (.identifier f) xs)) globals m = .ok v m₁ ∧
      m₁.Holds (bs.put name v) :=
  h.eval_assignment ((eval_call (h.eval_name hf) hargs).trans (call_of_leaves hbody))
    extends_entered name

end Machine

end FloScript
