import FloScript.Proofs.DisciplinedEvaluation

/-! What evaluation does to the scopes. It keeps the graph of scopes sound and takes no name away,
and it gives new names to no scope there was, apart from its own and the globals. All of this also
holds of evaluations that end with a signal. -/
namespace FloScript

open Scopes (Grows Spares)

variable {m m' : Machine} {own id : Nat} {name : String} {v : Value}

/-- The scopes are sound, and the tasks that wait hold values that refer to them. -/
structure Machine.Sound (m : Machine) : Prop where
  scopes : m.scopes.Sound
  tasks : ∀ (id : Nat) (v : Value), m.tasks[id]? = some (some v) → v.Within m.scopes.size

namespace Machine

theorem sound_withNatives (ns : List Native) : (Machine.withNatives ns).Sound where
  scopes := by
    refine ⟨⟨_, rfl⟩, fun id s hs hid => ?_, fun id s hs b hb => ?_⟩
    all_goals
      obtain ⟨hlt, rfl⟩ := Array.getElem?_eq_some_iff.mp hs
      obtain rfl : id = Machine.globals := Nat.lt_one_iff.mp hlt
    · exact absurd rfl hid
    · simp only [Machine.withNatives] at hb
      obtain ⟨r, -, rfl⟩ := List.mem_map.mp hb
      exact Value.holding_native
  tasks id v h := by simp [Machine.withNatives] at h

theorem Sound.define (hm : m.Sound) (id : Nat) (name : String) (hv : v.Within m.scopes.size) :
    Sound { m with scopes := m.scopes.define id name v } where
  scopes := hm.scopes.define hv
  tasks i w hw := by
    rw [Scopes.size_define]
    exact hm.tasks i w hw

theorem Sound.push {p : Nat} (hm : m.Sound) (hp : p < m.scopes.size) :
    Sound { m with scopes := m.scopes.push ⟨some p, []⟩ } where
  scopes := hm.scopes.push hp
  tasks i w hw := (hm.tasks i w hw).mono (by simp)

end Machine

/-- Scopes are added, and new names only in the given scope and in the globals. -/
def Scopes.Adds (own : Nat) (ss ss' : Scopes) : Prop := Grows ss ss' ∧ Spares own ss ss'

namespace Scopes

variable {ss ss' ss'' : Scopes}

theorem Adds.refl (own : Nat) (ss : Scopes) : Adds own ss ss := ⟨.refl ss, .refl own ss⟩

theorem Adds.trans (h : Adds own ss ss') (h' : Adds own ss' ss'') : Adds own ss ss'' :=
  ⟨h.1.trans h'.1, h.2.trans h.1.size h'.2⟩

/-- What is added to a new scope is nothing to the scopes there were. -/
theorem Adds.new (h : Adds own ss ss') (hid : ss.size ≤ id) (h' : Adds id ss' ss'') :
    Adds own ss ss'' := by
  refine ⟨h.1.trans h'.1, fun j hj hne hglobal => ?_⟩
  have hj' : j < ss'.size := Nat.lt_of_lt_of_le hj h.1.size
  rw [h'.2 j hj' (by omega) hglobal, h.2 j hj hne hglobal]

theorem adds_push {s : Scope} : Adds own ss (ss.push s) := ⟨grows_push, spares_push own⟩

end Scopes

/-- All nodes are met and all signals may end a step. The machines that come up are sound, values
refer to the scopes there are, and nothing is done to the scopes but to add to them. -/
def scoping : Discipline where
  node _ := True
  signal _ := True
  fit := Machine.Sound
  extent m := m.scopes.size
  inside id n := id < n
  refers := Value.RefersBelow
  moves own m m' := Scopes.Adds own m.scopes m'.scopes
  inside_mono := Nat.lt_of_lt_of_le
  refers_mono := Value.RefersBelow.mono
  moves_refl own m := .refl own m.scopes
  moves_trans := Scopes.Adds.trans
  moves_new := Scopes.Adds.new
  extent_mono h := h.1.size
  globals hm := hm.scopes.globals_lt
  closure := Value.refersBelow_function.mp
  inherited hm := hm.scopes.inherited
  found hm hid hv := hm.scopes.within_get hid hv
  waiting id v hm hw := hm.tasks id v hw
  kept own m m' hm hscopes htasks := by
    rw [hscopes]
    refine ⟨⟨?_, ?_⟩, .refl own m.scopes⟩
    all_goals rw [hscopes]
    · exact hm.scopes
    · exact htasks
  defined own name m v hm hv := ⟨hm.define own name hv, Scopes.grows_define, Scopes.spares_define⟩
  assigned own id name m v ss hm hid hv hss := by
    obtain ⟨p, hassign, hp⟩ := hm.scopes.assign hid name v
    rw [hassign] at hss
    cases hss
    exact ⟨hm.define p name hv, Scopes.grows_define, Scopes.spares_define_bound own hp⟩
  opened own p m hm hp := ⟨hm.push hp, Scopes.adds_push, by simp⟩
  calm _ _ := trivial
  unfinished := trivial
  evaluated _ _ _ _ := trivial
  function _ ho _ := Value.refersBelow_function.mpr ho
  returning _ _ _ := trivial
  binary _ _ _ _ _ := trivial
  unary _ _ _ _ _ := trivial
  unhandled _ _ _ := trivial

section Watched

/-- Evaluates a node in a scope, at most `depth` nodes deep, and watches each evaluation on the way.
Where the machine before it and the one after it are not as demanded, another evaluator is asked
instead. -/
noncomputable def evalWatched (demand : Nat → Machine → Machine → Prop) (other : Evaluator)
    (rounds : Nat) : Nat → Evaluator
  | 0 => fun _ _ => Run.fail .depth
  | depth + 1 => fun t own m =>
    let x := Evaluator.step (evalWatched demand other rounds depth) rounds t own
    open Classical in if demand own m (endState x m) then x m else other t own m

theorem scoped_eval (rounds depth : Nat) : scoping.Alike (eval rounds depth) (eval rounds depth) :=
  Discipline.obeys_eval (fun _ _ _ _ _ _ => trivial) rounds depth

/-- What would be done where evaluations are not as demanded does not matter if on sound machines
they always are. -/
theorem alike_evalWatched {demand : Nat → Machine → Machine → Prop}
    (h : ∀ own m m', m.Sound → own < m.scopes.size → m'.Sound → Scopes.Adds own m.scopes m'.scopes →
      demand own m m')
    (other : Evaluator) (rounds depth : Nat) :
    scoping.Alike (eval rounds depth) (evalWatched demand other rounds depth) :=
  Discipline.alike_eval (fun _ _ _ _ _ _ => trivial) (fun _ _ => rfl)
    (fun _ _ own m _ hm ho hfit hmoves => if_pos (h own m _ hm ho hfit hmoves)) depth

end Watched
end FloScript
