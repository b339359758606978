import FloScript.Proofs.HeldValues

/-! The graph of scopes. From every scope the parents lead down to the globals, so looking up a name
comes to an end. Binding a name, assigning to one and making a scope keep the parents of all scopes
there are, and take no name away. -/
namespace FloScript

variable {ss ss' ss'' : Scopes} {id p n : Nat} {name : String} {v : Value}

namespace Bindings

variable {bs : Bindings}

theorem names_put (name : String) (v : Value) (bs : Bindings) :
    (bs.put name v).map (·.1) = if bs.binds name then bs.map (·.1) else bs.map (·.1) ++ [name] := by
  induction bs with
  | nil => simp [put, binds]
  | cons b bs ih =>
    obtain ⟨n, w⟩ := b
    by_cases h : n = name
    · simp [put, binds, h]
    · have hbinds : binds name ((n, w) :: bs) = binds name bs := by simp [binds, h]
      simp only [put, if_neg h, List.map_cons, ih, hbinds]
      split <;> simp

theorem eq_of_mem_put {b : String × Value} (h : b ∈ bs.put name v) : b ∈ bs ∨ b.2 = v := by
  induction bs with
  | nil => simp_all [put]
  | cons a bs ih =>
    obtain ⟨n, w⟩ := a
    simp only [put] at h
    split at h
    · rcases List.mem_cons.mp h with rfl | h
      · exact .inr rfl
      · exact .inl (List.mem_cons_of_mem _ h)
    · rcases List.mem_cons.mp h with rfl | h
      · exact .inl List.mem_cons_self
      · exact (ih h).imp_left (List.mem_cons_of_mem _)

theorem lookup_of_binds (h : bs.binds name = true) :
    ∃ w, bs.lookup name = some w ∧ (name, w) ∈ bs := by
  cases hw : bs.lookup name with
  | some w =>
    obtain ⟨cs, ds, rfl, -⟩ := List.lookup_eq_some_iff.mp hw
    exact ⟨w, rfl, by simp⟩
  | none =>
    simp only [binds, List.any_eq_true, decide_eq_true_eq] at h
    obtain ⟨b, hb, rfl⟩ := h
    have hne := List.lookup_eq_none_iff.mp hw b hb
    simp at hne

theorem lookup_of_not_binds (h : bs.binds name = false) : bs.lookup name = none := by
  simp only [binds, List.any_eq_false, decide_eq_true_eq] at h
  refine List.lookup_eq_none_iff.mpr fun b hb => ?_
  have hne := h b hb
  simpa using Ne.symm hne

end Bindings

namespace Scopes

/-- The parent of a scope, if it has one. -/
def parentOf (ss : Scopes) (id : Nat) : Option Nat := ss[id]?.bind (·.parent)

/-- The names that a scope itself binds, in the order in which they were first bound. -/
def namesOf (ss : Scopes) (id : Nat) : List String := (ss.bindingsOf id).map (·.1)

theorem binds_iff : (ss.bindingsOf id).binds name = true ↔ name ∈ ss.namesOf id := by
  simp [Bindings.binds, namesOf]

section Lineage

/-- The way from a scope through its parents, to one that has no parent. -/
inductive Lineage (ss : Scopes) : Nat → List Nat → Prop where
  | last {id : Nat} {s : Scope} : ss[id]? = some s → s.parent = none → Lineage ss id [id]
  | next {id p : Nat} {s : Scope} {ids : List Nat} :
      ss[id]? = some s → s.parent = some p → Lineage ss p ids → Lineage ss id (id :: ids)

variable {ids : List Nat}

theorem Sound.lineage (h : ss.Sound) (hid : id < ss.size) :
    ∃ ids, Lineage ss id ids ∧ ids.Pairwise (· > ·) ∧ (∀ j ∈ ids, j ≤ id) ∧
      ids.getLast? = some Machine.globals := by
  induction id using Nat.strongRecOn with
  | ind id ih =>
    have hs : ss[id]? = some ss[id] := Array.getElem?_eq_getElem hid
    by_cases hglobal : id = Machine.globals
    · subst hglobal
      obtain ⟨bs, hroot⟩ := h.root
      exact ⟨[Machine.globals], .last hroot rfl, by simp, by simp, rfl⟩
    · obtain ⟨p, hp, hlt⟩ := h.below id _ hs hglobal
      obtain ⟨ids, hline, hsorted, hle, hlast⟩ := ih p hlt (by omega)
      refine ⟨id :: ids, .next hs hp hline, ?_, ?_, ?_⟩
      · exact List.pairwise_cons.mpr ⟨fun j hj => Nat.lt_of_le_of_lt (hle j hj) hlt, hsorted⟩
      · exact List.forall_mem_cons.mpr ⟨Nat.le_refl _, fun j hj => by have := hle j hj; omega⟩
      · simp [List.getLast?_cons, hlast]

/-- A falling list of numbers is no longer than its first number allows. -/
theorem length_le_of_falling (hf : ids.Pairwise (· > ·)) (hle : ∀ j ∈ ids, j < n) :
    ids.length ≤ n := by
  induction ids generalizing n with
  | nil => simp
  | cons j ids ih =>
    obtain ⟨hj, hf⟩ := List.pairwise_cons.mp hf
    have hlen := ih hf hj
    have hjn := hle j List.mem_cons_self
    simp only [List.length_cons]
    omega

/-- Looking for a name stops at the first scope on the way that binds it, or at the last one. -/
theorem Lineage.locate (h : Lineage ss id ids) (name : String) (hn : ids.length ≤ n) :
    (∃ j ∈ ids, ss.locate name n id = .ok (j, true) ∧ name ∈ ss.namesOf j) ∨
      ∃ j, ids.getLast? = some j ∧ ss.locate name n id = .ok (j, false) ∧
      ∀ i ∈ ids, name ∉ ss.namesOf i := by
  induction h generalizing n with
  | @last id s hs hp =>
    obtain ⟨f, rfl⟩ : ∃ f, n = f + 1 := ⟨n - 1, by simp at hn; omega⟩
    by_cases hb : s.bindings.binds name
    · refine .inl ⟨id, by simp, by simp [Scopes.locate, hs, hb], ?_⟩
      exact binds_iff.mp (by simpa [bindingsOf, hs] using hb)
    · refine .inr ⟨id, rfl, by simp [Scopes.locate, hs, hb, hp], ?_⟩
      intro i hi hmem
      obtain rfl : i = id := by simpa using hi
      exact hb (by simpa [bindingsOf, hs] using binds_iff.mpr hmem)
  | @next id p s ids hs hp _ ih =>
    obtain ⟨f, rfl⟩ : ∃ f, n = f + 1 := ⟨n - 1, by simp at hn; omega⟩
    by_cases hb : s.bindings.binds name
    · refine .inl ⟨id, by simp, by simp [Scopes.locate, hs, hb], ?_⟩
      exact binds_iff.mp (by simpa [bindingsOf, hs] using hb)
    · have hstep : ss.locate name (f + 1) id = ss.locate name f p := by
        simp [Scopes.locate, hs, hb, hp]
      have hhere : name ∉ ss.namesOf id := by
        intro hmem
        exact hb (by simpa [bindingsOf, hs] using binds_iff.mpr hmem)
      rw [hstep]
      rcases ih (n := f) (by simpa using hn) with ⟨j, hj, hloc, hname⟩ | ⟨j, hlast, hloc, hnone⟩
      · exact .inl ⟨j, List.mem_cons_of_mem _ hj, hloc, hname⟩
      · exact .inr
          ⟨j, by simp [List.getLast?_cons, hlast], hloc, List.forall_mem_cons.mpr ⟨hhere, hnone⟩⟩

/-- The way from a scope ends with the globals and passes no scope twice. -/
def Rooted (ss : Scopes) (id : Nat) (ids : List Nat) : Prop :=
  Lineage ss id ids ∧ ids.Nodup ∧ ids.getLast? = some Machine.globals

theorem Sound.rooted (h : ss.Sound) (hid : id < ss.size) :
    ∃ ids, Rooted ss id ids ∧ ids.length ≤ ss.size := by
  obtain ⟨ids, hline, hfalling, hle, hlast⟩ := h.lineage hid
  refine ⟨ids, ⟨hline, hfalling.imp fun hlt => Nat.ne_of_gt hlt, hlast⟩,
    length_le_of_falling hfalling fun j hj => ?_⟩
  exact Nat.lt_of_le_of_lt (hle j hj) hid

end Lineage

section Lookup

variable {ids : List Nat}

theorem get_of_located (h : ss.locate name (ss.size + 1) id = .ok (p, true))
    (hb : name ∈ ss.namesOf p) :
    ∃ w, ss.get id name = .ok w ∧ (name, w) ∈ ss.bindingsOf p := by
  obtain ⟨w, hw, hmem⟩ := Bindings.lookup_of_binds (binds_iff.mpr hb)
  exact ⟨w, by simp [get, h, hw, bind, Except.bind], hmem⟩

theorem get_of_missing (h : ss.locate name (ss.size + 1) id = .ok (p, false))
    (hb : name ∉ ss.namesOf p) :
    ss.get id name = .error (.undefined name) := by
  have hnone : (ss.bindingsOf p).lookup name = none :=
    Bindings.lookup_of_not_binds (by simpa using mt binds_iff.mp hb)
  simp [get, h, hnone, bind, Except.bind]

/-- A name has a value where a scope on the way binds it, and is undefined where none does. -/
theorem Rooted.get (h : Rooted ss id ids) (hlen : ids.length ≤ ss.size) (name : String) :
    (∃ j ∈ ids, name ∈ ss.namesOf j ∧ ∃ w, ss.get id name = .ok w ∧ (name, w) ∈ ss.bindingsOf j) ∨
      ((∀ j ∈ ids, name ∉ ss.namesOf j) ∧ ss.get id name = .error (.undefined name)) := by
  rcases h.1.locate name (n := ss.size + 1) (by omega)
    with ⟨j, hj, hloc, hname⟩ | ⟨j, hlast, hloc, hnone⟩
  · exact .inl ⟨j, hj, hname, get_of_located hloc hname⟩
  · exact .inr ⟨hnone, get_of_missing hloc (hnone j (List.mem_of_getLast? hlast))⟩

theorem Sound.within_get (h : ss.Sound) (hid : id < ss.size) (hv : ss.get id name = .ok v) :
    v.Within ss.size := by
  obtain ⟨ids, hrooted, hlen⟩ := h.rooted hid
  rcases hrooted.get hlen name with ⟨j, -, -, w, hw, hmem⟩ | ⟨-, hnone⟩
  · rw [hv] at hw
    cases hw
    exact h.within_of_mem hmem
  · rw [hv] at hnone
    cases hnone

/-- Assigning binds the name in a scope that binds it already, or else in the globals. -/
theorem Sound.assign (h : ss.Sound) (hid : id < ss.size) (name : String) (v : Value) :
    ∃ p, ss.assign id name v = .ok (ss.define p name v) ∧
      (name ∈ ss.namesOf p ∨ p = Machine.globals) := by
  obtain ⟨ids, hrooted, hlen⟩ := h.rooted hid
  rcases hrooted.1.locate name (n := ss.size + 1) (by omega)
    with ⟨j, hj, hloc, hname⟩ | ⟨j, hlast, hloc, -⟩
  · exact ⟨j, by simp [Scopes.assign, hloc, bind, Except.bind, pure, Except.pure], .inl hname⟩
  · have hj : j = Machine.globals := by simpa [hrooted.2.2] using hlast.symm
    exact ⟨j, by simp [Scopes.assign, hloc, bind, Except.bind, pure, Except.pure], .inr hj⟩

end Lookup

section Changes

/-- Scopes are added, and those there were keep their parents and their names. -/
structure Grows (ss ss' : Scopes) : Prop where
  size : ss.size ≤ ss'.size
  parent : ∀ id < ss.size, ss'.parentOf id = ss.parentOf id
  names : ∀ id < ss.size, ss.namesOf id <+: ss'.namesOf id

theorem Grows.refl (ss : Scopes) : Grows ss ss :=
  ⟨Nat.le_refl _, fun _ _ => rfl, fun _ _ => List.prefix_rfl⟩

theorem Grows.trans (h : Grows ss ss') (h' : Grows ss' ss'') : Grows ss ss'' where
  size := Nat.le_trans h.size h'.size
  parent id hid := (h'.parent id (Nat.lt_of_lt_of_le hid h.size)).trans (h.parent id hid)
  names id hid := (h.names id hid).trans (h'.names id (Nat.lt_of_lt_of_le hid h.size))

/-- No scope there was gets a new name, apart from the given one and the globals. -/
def Spares (own : Nat) (ss ss' : Scopes) : Prop :=
  ∀ id < ss.size, id ≠ own → id ≠ Machine.globals → ss'.namesOf id = ss.namesOf id

theorem Spares.refl (own : Nat) (ss : Scopes) : Spares own ss ss := fun _ _ _ _ => rfl

theorem Spares.trans {own : Nat} (h : Spares own ss ss') (hsize : ss.size ≤ ss'.size)
    (h' : Spares own ss' ss'') :
    Spares own ss ss'' :=
  fun id hid hne hng => (h' id (Nat.lt_of_lt_of_le hid hsize) hne hng).trans (h id hid hne hng)

section Define

@[simp] theorem size_define : (ss.define id name v).size = ss.size := by simp [define]

theorem getElem?_define (p : Nat) : (ss.define id name v)[p]? =
    if id = p then ss[p]?.map fun s => { s with bindings := s.bindings.put name v }
      else ss[p]? := by
  simp [define, Array.getElem?_modify]

theorem parentOf_define (p : Nat) : (ss.define id name v).parentOf p = ss.parentOf p := by
  simp only [parentOf, getElem?_define]
  split
  · cases ss[p]? <;> rfl
  · rfl

theorem namesOf_define (hid : id < ss.size) : (ss.define id name v).namesOf id =
    if name ∈ ss.namesOf id then ss.namesOf id else ss.namesOf id ++ [name] := by
  have hs : ss[id]? = some ss[id] := Array.getElem?_eq_getElem hid
  have hnew : (ss.define id name v).bindingsOf id = (ss.bindingsOf id).put name v := by
    simp [bindingsOf, getElem?_define, hs]
  rw [namesOf, hnew, Bindings.names_put]
  by_cases h : name ∈ ss.namesOf id
  · rw [if_pos h, if_pos (binds_iff.mpr h), namesOf]
  · rw [if_neg h, if_neg (mt binds_iff.mp h), namesOf]

theorem namesOf_define_other (h : id ≠ p) : (ss.define id name v).namesOf p = ss.namesOf p := by
  simp [namesOf, bindingsOf, getElem?_define, h]

theorem grows_define : Grows ss (ss.define id name v) where
  size := by simp
  parent p _ := parentOf_define p
  names p hp := by
    by_cases h : id = p
    · subst h
      rw [namesOf_define hp]
      split
      · exact List.prefix_rfl
      · exact List.prefix_append _ _
    · exact (namesOf_define_other h).symm ▸ List.prefix_rfl

theorem spares_define : Spares id ss (ss.define id name v) :=
  fun _ _ hne _ => namesOf_define_other hne.symm

/-- Binding a name that is bound already, or binding one in the globals, gives no other scope a new
name. -/
theorem spares_define_bound (own : Nat) (h : name ∈ ss.namesOf id ∨ id = Machine.globals) :
    Spares own ss (ss.define id name v) := by
  intro p hp _ hng
  by_cases hid : id = p
  · subst hid
    rw [namesOf_define hp, if_pos (h.resolve_right hng)]
  · exact namesOf_define_other hid

theorem Sound.define (h : ss.Sound) (hv : v.Within ss.size) : (ss.define id name v).Sound where
  root := by
    obtain ⟨bs, hroot⟩ := h.root
    rw [getElem?_define, hroot]
    split
    · exact ⟨_, rfl⟩
    · exact ⟨_, rfl⟩
  below p s hs hp := by
    rw [getElem?_define] at hs
    split at hs
    · obtain ⟨t, ht, rfl⟩ := Option.map_eq_some_iff.mp hs
      exact h.below p t ht hp
    · exact h.below p s hs hp
  held p s hs b hb := by
    rw [getElem?_define] at hs
    rw [size_define]
    split at hs
    · obtain ⟨t, ht, rfl⟩ := Option.map_eq_some_iff.mp hs
      rcases Bindings.eq_of_mem_put hb with hb | hb
      · exact h.held p t ht b hb
      · rwa [hb]
    · exact h.held p s hs b hb

end Define

section Create

variable {s : Scope}

theorem getElem?_push_old (hid : id < ss.size) : (ss.push s)[id]? = ss[id]? := by
  rw [Array.getElem?_push, if_neg (by omega)]

theorem namesOf_push (hid : id < ss.size) : namesOf (ss.push s) id = ss.namesOf id := by
  rw [namesOf, namesOf, bindingsOf, bindingsOf, getElem?_push_old hid]

theorem grows_push : Grows ss (ss.push s) where
  size := by simp
  parent id hid := by rw [parentOf, getElem?_push_old hid, parentOf]
  names id hid := (namesOf_push hid).symm ▸ List.prefix_rfl

theorem spares_push (own : Nat) : Spares own ss (ss.push s) := fun _ hid _ _ => namesOf_push hid

/-- A new scope below one there is. -/
theorem Sound.push (h : ss.Sound) (hp : p < ss.size) : Sound (ss.push ⟨some p, []⟩) where
  root := by
    obtain ⟨bs, hroot⟩ := h.root
    exact ⟨bs, by rw [getElem?_push_old (Array.getElem?_eq_some_iff.mp hroot).1, hroot]⟩
  below id s hs hid := by
    rw [Array.getElem?_push] at hs
    split at hs
    · next heq =>
      cases hs
      exact ⟨p, rfl, heq ▸ hp⟩
    · exact h.below id s hs hid
  held id s hs b hb := by
    rw [Array.getElem?_push] at hs
    split at hs
    · cases hs
      cases hb
    · exact (h.held id s hs b hb).mono (by simp)

/-- A scope that is moved as soon as it is made was never anywhere else. -/
theorem reparent_push (q : Option Nat) :
    reparent ss.size q (ss.push s) = ss.push { s with parent := q } := by
  apply Array.ext_getElem?
  intro id
  simp only [reparent, Array.getElem?_modify, Array.getElem?_push]
  split
  · next heq => simp [← heq]
  · next hne => simp [Ne.symm hne]

end Create

end Changes

end Scopes
end FloScript
