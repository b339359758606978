import FloScript.Proofs.ScopeRuns

/-! The scopes of a whole session: trees evaluated one after the other in the globals of a new
machine. -/
namespace FloScript

open Scopes (Grows Rooted Spares)

variable {m m' : Machine} {id : Nat} {v : Value}

/-- Evaluates trees one after the other in the globals, also after one that ended with a signal. -/
def Evaluator.session (ev : Evaluator) : List Node → Run Unit
  | [] => return ()
  | t :: ts => do
    discard (Run.capture (ev t Machine.globals))
    session ev ts

section Reach

/-- The values that can be reached from a scope: what is bound in it or in its parents, the parts of
a value, what can be reached from the scope that a value refers to, and what a task waits to
give. -/
inductive Machine.Reaches (m : Machine) : Nat → Value → Prop where
  | bound {id : Nat} {b : String × Value} : b ∈ m.scopes.bindingsOf id → Reaches m id b.2
  | outer {id p : Nat} {v : Value} : m.scopes.parentOf id = some p → Reaches m p v → Reaches m id v
  | part {id : Nat} {v w : Value} : Reaches m id v → w ∈ v.parts → Reaches m id w
  | through {id p : Nat} {v w : Value} :
      Reaches m id v → v.scope? = some p → Reaches m p w → Reaches m id w
  | awaited {id t : Nat} {name : String} {w : Value} :
      Reaches m id (.task name t) → m.tasks[t]? = some (some w) → Reaches m id w

theorem Machine.Reaches.within (h : m.Reaches id v) (hm : m.Sound) : v.Within m.scopes.size := by
  induction h with
  | bound hb => exact hm.scopes.within_of_mem hb
  | outer _ _ ih => exact ih
  | part _ hw ih => exact (Value.holding_iff.mp ih).2 _ hw
  | through _ _ _ _ ih => exact ih
  | awaited _ hw _ => exact hm.tasks _ _ hw

/-- From every scope the parents lead to the globals, every function in reach was made in one of the
scopes, and names can be looked up and assigned from every scope. A name is undefined exactly where
no scope on the way binds it. -/
structure Machine.WellScoped (m : Machine) : Prop where
  chain : ∀ id < m.scopes.size, ∃ ids, Rooted m.scopes id ids ∧ ∀ name,
    (m.scopes.get id name = .error (.undefined name) ↔ ∀ j ∈ ids, name ∉ m.scopes.namesOf j) ∧
    ((∃ v, m.scopes.get id name = .ok v) ∨ m.scopes.get id name = .error (.undefined name))
  closures : ∀ id l c, m.Reaches id (.function l c) → c.scope < m.scopes.size
  assigned : ∀ id < m.scopes.size, ∀ name v, ∃ ss, m.scopes.assign id name v = .ok ss

theorem Machine.Sound.wellScoped (hm : m.Sound) : m.WellScoped where
  chain id hid := by
    obtain ⟨ids, hrooted, hlen⟩ := hm.scopes.rooted hid
    refine ⟨ids, hrooted, fun name => ?_⟩
    rcases hrooted.get hlen name with ⟨j, hj, hname, w, hw, -⟩ | ⟨hnone, hget⟩
    · refine ⟨⟨fun h => ?_, fun h => absurd hname (h j hj)⟩, .inl ⟨w, hw⟩⟩
      rw [hw] at h
      cases h
    · exact ⟨⟨fun _ => hnone, fun _ => hget⟩, .inr hget⟩
  closures id l c h := Value.refersBelow_function.mp (Value.holding_function.mp (h.within hm))
  assigned id hid name v := by
    obtain ⟨p, hp, -⟩ := hm.scopes.assign hid name v
    exact ⟨_, hp⟩

end Reach

section Sessions

variable {ev ev' : Evaluator}

theorem keeps_session (hev : scoping.Alike ev ev') (ts : List Node) {n : Nat}
    (hn : Machine.globals < n) :
    scoping.Keeps Machine.globals n (fun _ _ => True) (ev.session ts) (ev'.session ts) := by
  induction ts generalizing n with
  | nil => exact Discipline.obeys_pure fun _ _ => trivial
  | cons t ts ih =>
    refine Discipline.keeps_bind (Q := fun _ _ => True) ?_ fun _ k hk _ =>
      ih (Nat.lt_of_lt_of_le hn hk)
    refine Discipline.keeps_bind (Discipline.keeps_capture (hev t trivial Machine.globals n hn))
      fun _ _ _ _ => ?_
    exact Discipline.obeys_pure fun _ _ => trivial

theorem session_watched {demand : Nat → Machine → Machine → Prop}
    (h : ∀ own m m', m.Sound → own < m.scopes.size → m'.Sound → Scopes.Adds own m.scopes m'.scopes →
      demand own m m')
    (routines : List Native) (rounds depth : Nat) (other : Evaluator) (ts : List Node) :
    (evalWatched demand other rounds depth).session ts (.withNatives routines) =
      (eval rounds depth).session ts (.withNatives routines) :=
  (keeps_session (alike_evalWatched h other rounds depth) ts Nat.one_pos _
    (Machine.sound_withNatives routines) (Nat.le_refl 1)).1.symm

/-- One machine comes of the other when nodes are evaluated one after the other, each in some scope
there is then. -/
inductive Machine.LeadsTo (m : Machine) : Machine → Prop where
  | refl : LeadsTo m m
  | eval {m' : Machine} (rounds depth : Nat) (t : Node) (own : Nat) :
      LeadsTo m m' → own < m'.scopes.size → LeadsTo m (endState (eval rounds depth t own) m')

theorem Machine.LeadsTo.grows (h : m.LeadsTo m') (hm : m.Sound) :
    m'.Sound ∧ Grows m.scopes m'.scopes := by
  induction h with
  | refl => exact ⟨hm, .refl m.scopes⟩
  | eval rounds depth t own _ ho ih =>
    obtain ⟨hm', hgrows⟩ := ih
    obtain ⟨-, hsound, hadds, -⟩ :=
      scoped_eval rounds depth t trivial own _ ho _ hm' (Nat.le_refl _)
    exact ⟨hsound, hgrows.trans hadds.1⟩

theorem endState_session_cons (t : Node) (ts : List Node) (m : Machine) :
    endState (ev.session (t :: ts)) m =
      endState (ev.session ts) (endState (ev t Machine.globals) m) := by
  have hfirst : (discard (Run.capture (ev t Machine.globals)) : Run Unit) m =
      .ok () (endState (ev t Machine.globals) m) := by
    cases h : ev t Machine.globals m with
    | ok v m' | error e m' =>
      simp [endState, h, discard, Functor.discard, Functor.mapConst, EStateM.map, Run.capture]
  exact endState_bind_of_ok hfirst

theorem endState_session_append (ts us : List Node) (m : Machine) :
    endState (ev.session (ts ++ us)) m = endState (ev.session us) (endState (ev.session ts) m) := by
  induction ts generalizing m with
  | nil => rfl
  | cons t ts ih => rw [List.cons_append, endState_session_cons, endState_session_cons, ih]

theorem leadsTo_session {start : Machine} (hstart : start.Sound) (h : start.LeadsTo m)
    (rounds depth : Nat) (ts : List Node) :
    start.LeadsTo (endState ((eval rounds depth).session ts) m) := by
  induction ts generalizing m with
  | nil => exact h
  | cons t ts ih =>
    rw [endState_session_cons]
    exact ih (.eval rounds depth t Machine.globals h (h.grows hstart).1.scopes.globals_lt)

end Sessions

/-- An evaluation in a scope there is, from a machine with well-formed scopes to another one, that
lets all scopes keep their parents and their names. -/
structure Orderly (own : Nat) (m m' : Machine) : Prop where
  scope : own < m.scopes.size
  before : m.WellScoped
  after : m'.WellScoped
  grows : Grows m.scopes m'.scopes

/-- The scopes of a session on a new machine are well formed at all times, whatever signals there
are. Each evaluation that is part of it is orderly, so it does not matter what would be done after
one that is not. The same holds of all machines that come of a new one by evaluating nodes in scopes
there are: their scopes are well formed, and those of each grow from those of the machines before
it. The machines between the trees of a session are such machines. -/
theorem scopes_sound_throughout (routines : List Native) :
    (∀ rounds depth other ts,
      (evalWatched Orderly other rounds depth).session ts (.withNatives routines) =
        (eval rounds depth).session ts (.withNatives routines)) ∧
    (∀ m, (Machine.withNatives routines).LeadsTo m →
      m.WellScoped ∧ ∀ m', m.LeadsTo m' → m'.WellScoped ∧ Grows m.scopes m'.scopes) ∧
    ∀ rounds depth ts,
      (Machine.withNatives routines).LeadsTo
        (endState ((eval rounds depth).session ts) (.withNatives routines)) ∧
      ∀ us, (endState ((eval rounds depth).session ts) (.withNatives routines)).LeadsTo
        (endState ((eval rounds depth).session (ts ++ us)) (.withNatives routines)) := by
  have hstart := Machine.sound_withNatives routines
  refine ⟨session_watched (fun own m m' hm ho hm' hadds => ?_) routines, fun m hm => ?_,
    fun rounds depth ts => ?_⟩
  · exact ⟨ho, hm.wellScoped, hm'.wellScoped, hadds.1⟩
  · obtain ⟨hsound, -⟩ := hm.grows hstart
    refine ⟨hsound.wellScoped, fun m' hm' => ?_⟩
    obtain ⟨hsound', hgrows⟩ := hm'.grows hsound
    exact ⟨hsound'.wellScoped, hgrows⟩
  · have hts := leadsTo_session hstart .refl rounds depth ts
    refine ⟨hts, fun us => ?_⟩
    rw [endState_session_append]
    exact leadsTo_session (hts.grows hstart).1 .refl rounds depth us

/-- An evaluation in a scope there is, from a sound machine to a sound one, that gives new names to
no other scope there was, apart from the globals. -/
structure Framed (own : Nat) (m m' : Machine) : Prop where
  scope : own < m.scopes.size
  before : m.Sound
  after : m'.Sound
  spares : Spares own m.scopes m'.scopes

/-- Evaluating a node in a scope gives new names to no other scope there was, apart from the
globals; and a call gives none to any scope there was, apart from the globals. This holds on all
sound machines. All machines that come of a new one are sound, and each evaluation that is part of a
session on a new one is made on a sound machine, in a scope there is. -/
theorem names_only_in_own_scope (routines : List Native) :
    (∀ rounds depth other ts,
      (evalWatched Framed other rounds depth).session ts (.withNatives routines) =
        (eval rounds depth).session ts (.withNatives routines)) ∧
    (∀ m, (Machine.withNatives routines).LeadsTo m → m.Sound) ∧
    ∀ m : Machine, m.Sound → ∀ rounds depth,
      (∀ t, ∀ own < m.scopes.size, ∀ id < m.scopes.size, id ≠ own → id ≠ Machine.globals →
        (endState (eval rounds depth t own) m).scopes.namesOf id = m.scopes.namesOf id) ∧
      ∀ f args, f.Within m.scopes.size → Value.AllWithin m.scopes.size args →
        ∀ id < m.scopes.size, id ≠ Machine.globals →
          (endState (Evaluator.call (eval rounds depth) f args) m).scopes.namesOf id =
            m.scopes.namesOf id := by
  refine ⟨session_watched (fun own m m' hm ho hm' hadds => ⟨ho, hm, hm', hadds.2⟩) routines,
    fun m hm => (hm.grows (Machine.sound_withNatives routines)).1, fun m hm rounds depth => ?_⟩
  constructor
  · intro t own ho
    obtain ⟨-, -, hadds, -⟩ := scoped_eval rounds depth t trivial own _ ho m hm (Nat.le_refl _)
    exact hadds.2
  · intro f args hf hargs id hid
    have hbodies : scoping.AlikeBodies (eval rounds depth) (eval rounds depth) :=
      fun _ _ _ _ _ hown =>
        Discipline.keeps_body (scoped_eval rounds depth) hown fun _ _ => trivial
    -- seen from a scope that there is not, all scopes are spared
    have hcall : scoping.Obeys m.scopes.size m.scopes.size scoping.Good
        (Evaluator.call (eval rounds depth) f args) := Discipline.keeps_call hbodies hf hargs
    obtain ⟨-, -, hadds, -⟩ := hcall m hm (Nat.le_refl _)
    exact hadds.2 id hid (Nat.ne_of_lt hid)

end FloScript
