import Mathlib.Data.Fintype.EquivFin
import Mathlib.Data.List.Perm.Subperm
import FloScript.Proofs.ScopeGraph

/-! Assignment as the change of one cell. A cell is a name in a scope. In a forest of scopes the
parents lead from every scope to a last one, a name seen from a scope is the nearest cell on that
way, and assigning writes this cell, or makes one in the last scope. What other scopes see changes
only where their nearest cell is the one that was written. -/
namespace FloScript

theorem Bindings.isSome_lookup (name : String) (bs : Bindings) :
    (bs.lookup name).isSome = bs.binds name := by
  cases hb : bs.binds name with
  | true =>
    obtain ⟨w, hw, -⟩ := lookup_of_binds hb
    rw [hw]
    rfl
  | false =>
    rw [lookup_of_not_binds hb]
    rfl

theorem Bindings.lookup_put (name x : String) (v : Value) (bs : Bindings) :
    (bs.put name v).lookup x = if x = name then some v else bs.lookup x := by
  induction bs with
  | nil =>
    by_cases hx : x = name
    · simp [put, hx]
    · simp [put, hx]
  | cons b bs ih =>
    obtain ⟨n, w⟩ := b
    rw [put]
    split
    · next hn =>
      subst hn
      by_cases hx : x = n
      · simp [hx]
      · have hfalse : (x == n) = false := beq_eq_false_iff_ne.mpr hx
        rw [List.lookup_cons, List.lookup_cons, hfalse, if_neg hx]
    · next hn =>
      rw [List.lookup_cons, List.lookup_cons, ih]
      cases hxn : x == n with
      | false => rfl
      | true =>
        have hx : ¬ x = name := fun he => hn (he ▸ (eq_of_beq hxn).symm)
        simp [hx]

namespace Scopes

variable {ss : Scopes} {id p j : Nat} {ids js : List Nat} {name x : String} {v : Value}

section Forests

/-- A scope is an ancestor of another: its parent, or an ancestor of its parent. -/
def Descends (ss : Scopes) : Nat → Nat → Prop := Relation.TransGen fun i p => ss.parentOf i = some p

/-- Every parent is one of the scopes, and no scope is its own ancestor. -/
structure Forest (ss : Scopes) : Prop where
  parent_lt : ∀ id p, ss.parentOf id = some p → p < ss.size
  acyclic : ∀ id, ¬ ss.Descends id id

/-- Scopes are a forest if some measure falls from every scope to its parent. -/
theorem forest_of_measure (rank : Nat → Nat)
    (h : ∀ id p, ss.parentOf id = some p → p < ss.size ∧ rank p < rank id) : ss.Forest where
  parent_lt id p hp := (h id p hp).1
  acyclic id hd := by
    have hfalls : ∀ i, ss.Descends id i → rank i < rank id := by
      intro i hi
      induction hi with
      | single hp => exact (h _ _ hp).2
      | tail _ hp ih => exact Nat.lt_trans (h _ _ hp).2 ih
    exact Nat.lt_irrefl _ (hfalls id hd)

theorem parentOf_of_getElem? {s : Scope} (hs : ss[id]? = some s) : ss.parentOf id = s.parent := by
  simp [parentOf, hs]

/-- In a forest the parents come to an end. -/
theorem Forest.lineage (h : ss.Forest) (hid : id < ss.size) : ∃ ids, Lineage ss id ids := by
  let above (q i : Fin ss.size) : Prop := ss.Descends i q
  have : IsTrans (Fin ss.size) above := ⟨fun _ _ _ hab hbc => hbc.trans hab⟩
  have : Std.Irrefl above := ⟨fun i => h.acyclic i⟩
  have hwf : WellFounded above := Finite.wellFounded_of_trans_of_irrefl above
  suffices hall : ∀ i : Fin ss.size, ∃ ids, Lineage ss i ids from hall ⟨id, hid⟩
  intro i
  induction i using hwf.induction with
  | _ i ih =>
    have hs : ss[i.val]? = some ss[i.val] := Array.getElem?_eq_getElem i.isLt
    cases hp : ss[i.val].parent with
    | none => exact ⟨[i.val], .last hs hp⟩
    | some q =>
      have hparent : ss.parentOf i = some q := (parentOf_of_getElem? hs).trans hp
      obtain ⟨ids, hline⟩ := ih ⟨q, h.parent_lt _ _ hparent⟩ (.single hparent)
      exact ⟨i.val :: ids, .next hs hp hline⟩

theorem Lineage.lt_size (h : Lineage ss id ids) : ∀ j ∈ ids, j < ss.size := by
  induction h with
  | last hs _ => exact List.forall_mem_singleton.mpr (Array.getElem?_eq_some_iff.mp hs).1
  | next hs _ _ ih => exact List.forall_mem_cons.mpr ⟨(Array.getElem?_eq_some_iff.mp hs).1, ih⟩

theorem Lineage.descends (h : Lineage ss id ids) : ∀ j ∈ ids, j = id ∨ ss.Descends id j := by
  induction h with
  | last => exact List.forall_mem_singleton.mpr (.inl rfl)
  | @next id q s ids hs hp _ ih =>
    have hparent : ss.parentOf id = some q := (parentOf_of_getElem? hs).trans hp
    refine List.forall_mem_cons.mpr ⟨.inl rfl, fun j hj => .inr ?_⟩
    rcases ih j hj with rfl | hd
    · exact .single hparent
    · exact .head hparent hd

/-- There is one way from a scope. -/
theorem Lineage.unique (h : Lineage ss id ids) (h' : Lineage ss id js) : ids = js := by
  induction h generalizing js with
  | last hs hlast =>
    cases h' with
    | last => rfl
    | next hs' hp => simp_all
  | next hs hp _ ih =>
    cases h' with
    | last hs' hlast => simp_all
    | next hs' hp' hline =>
      obtain rfl := Option.some.inj (hs.symm.trans hs')
      obtain rfl := Option.some.inj (hp.symm.trans hp')
      rw [ih hline]

/-- In a forest the way to the last scope passes no scope twice. -/
theorem Lineage.nodup (h : Lineage ss id ids) (hf : ss.Forest) : ids.Nodup := by
  induction h with
  | last => exact List.nodup_singleton _
  | @next id q s ids hs hp hline ih =>
    have hparent : ss.parentOf id = some q := (parentOf_of_getElem? hs).trans hp
    refine List.nodup_cons.mpr ⟨fun hmem => ?_, ih⟩
    rcases hline.descends id hmem with rfl | hd
    · exact hf.acyclic id (.single hparent)
    · exact hf.acyclic id (.head hparent hd)

theorem Lineage.length_le (h : Lineage ss id ids) (hf : ss.Forest) : ids.length ≤ ss.size := by
  have hsub : ids ⊆ List.range ss.size := fun j hj => List.mem_range.mpr (h.lt_size j hj)
  have hlen := ((h.nodup hf).subperm hsub).length_le
  rwa [List.length_range] at hlen

end Forests

section Cells

/-- The value of a name in a scope itself. -/
def cell (ss : Scopes) (id : Nat) (name : String) : Option Value := (ss.bindingsOf id).lookup name

/-- The first of some scopes that binds a name. -/
def nearest? (ss : Scopes) (ids : List Nat) (name : String) : Option Nat :=
  ids.find? fun j => (ss.cell j name).isSome

/-- The scope in which a name is assigned: the first that binds it, or the last one. -/
def target? (ss : Scopes) (ids : List Nat) (name : String) : Option Nat :=
  (ss.nearest? ids name).or ids.getLast?

theorem isSome_cell {s : Scope} (hs : ss[id]? = some s) :
    (ss.cell id name).isSome = s.bindings.binds name := by
  simp [cell, bindingsOf, hs, Bindings.isSome_lookup]

theorem Lineage.exists_target (h : Lineage ss id ids) (name : String) :
    ∃ p ∈ ids, ss.target? ids name = some p := by
  cases hn : ss.nearest? ids name with
  | some p => exact ⟨p, List.mem_of_find?_eq_some hn, by simp [target?, hn]⟩
  | none =>
    have hne : ids ≠ [] := by cases h <;> simp
    exact ⟨ids.getLast hne, List.getLast_mem hne,
      by simp [target?, hn, List.getLast?_eq_some_getLast hne]⟩

/-- Following the parents leads to the scope in which the name is assigned. -/
theorem Lineage.locate_eq {n : Nat} (h : Lineage ss id ids) (hn : ids.length ≤ n)
    (hp : ss.target? ids name = some p) :
    ∃ found, ss.locate name n id = .ok (p, found) := by
  induction h generalizing n with
  | @last id s hs hlast =>
    obtain ⟨f, rfl⟩ : ∃ f, n = f + 1 := ⟨n - 1, by simp at hn; omega⟩
    obtain rfl : id = p := by
      by_cases hb : (ss.cell id name).isSome = true
      · simpa [target?, nearest?, hb] using hp
      · simpa [target?, nearest?, hb] using hp
    by_cases hb : s.bindings.binds name
    · exact ⟨true, by simp [Scopes.locate, hs, hb]⟩
    · exact ⟨false, by simp [Scopes.locate, hs, hb, hlast]⟩
  | @next id q s ids hs hparent hline ih =>
    obtain ⟨f, rfl⟩ : ∃ f, n = f + 1 := ⟨n - 1, by simp at hn; omega⟩
    have hcell : (ss.cell id name).isSome = s.bindings.binds name := isSome_cell hs
    by_cases hb : s.bindings.binds name
    · obtain rfl : id = p := by simpa [target?, nearest?, hcell, hb] using hp
      exact ⟨true, by simp [Scopes.locate, hs, hb]⟩
    · have hne : ids ≠ [] := by cases hline <;> simp
      have hlast : (id :: ids).getLast? = ids.getLast? := by
        simp [List.getLast?_cons, List.getLast?_eq_some_getLast hne]
      have hrest : ss.target? ids name = some p := by
        rw [← hp]
        simp [target?, nearest?, hcell, hb, hlast]
      have hstep : ss.locate name (f + 1) id = ss.locate name f q := by
        simp [Scopes.locate, hs, hb, hparent]
      rw [hstep]
      exact ih (by simpa using hn) hrest

theorem Lineage.get_eq (h : Lineage ss id ids) (hf : ss.Forest)
    (hp : ss.target? ids name = some p) :
    ss.get id name = (ss.cell p name).elim (.error (.undefined name)) .ok := by
  have hlen := h.length_le hf
  obtain ⟨found, hloc⟩ := h.locate_eq (n := ss.size + 1) (by omega) hp
  cases hc : ss.cell p name with
  | some w =>
    have hw : (ss.bindingsOf p).lookup name = some w := hc
    simp [get, hloc, hw, bind, Except.bind]
  | none =>
    have hw : (ss.bindingsOf p).lookup name = none := hc
    simp [get, hloc, hw, bind, Except.bind]

theorem Lineage.assign_eq (h : Lineage ss id ids) (hf : ss.Forest)
    (hp : ss.target? ids name = some p) (v : Value) :
    ss.assign id name v = .ok (ss.define p name v) := by
  have hlen := h.length_le hf
  obtain ⟨found, hloc⟩ := h.locate_eq (n := ss.size + 1) (by omega) hp
  simp [assign, hloc, bind, Except.bind, pure, Except.pure]

end Cells

section Writing

/-- Binding a name in a scope changes its cell and no other. -/
theorem cell_define (hp : p < ss.size) (j : Nat) (x : String) :
    (ss.define p name v).cell j x = if j = p ∧ x = name then some v else ss.cell j x := by
  by_cases hj : j = p
  · subst hj
    have hs : ss[j]? = some ss[j] := Array.getElem?_eq_getElem hp
    simp [cell, bindingsOf, getElem?_define, hs, Bindings.lookup_put]
  · have hne : ¬ p = j := fun he => hj he.symm
    simp [cell, bindingsOf, getElem?_define, hj, hne]

theorem parentOf_defined : (ss.define p name v).parentOf = ss.parentOf := funext parentOf_define

theorem Forest.define (h : ss.Forest) : (ss.define p name v).Forest where
  parent_lt i q hq := by
    rw [size_define]
    exact h.parent_lt i q (by rwa [parentOf_define] at hq)
  acyclic i := by
    unfold Descends
    rw [parentOf_defined]
    exact h.acyclic i

theorem Lineage.define (h : Lineage ss id ids) : Lineage (ss.define p name v) id ids := by
  induction h with
  | @last id s hs hlast =>
    by_cases hp : p = id
    · exact .last (s := { s with bindings := s.bindings.put name v })
        (by simp [getElem?_define, hp, hs]) hlast
    · exact .last (by simp [getElem?_define, hp, hs]) hlast
  | @next id q s ids hs hparent _ ih =>
    by_cases hp : p = id
    · exact .next (s := { s with bindings := s.bindings.put name v })
        (by simp [getElem?_define, hp, hs]) hparent ih
    · exact .next (by simp [getElem?_define, hp, hs]) hparent ih

theorem nearest?_define_other (hp : p < ss.size) (hx : x ≠ name) (js : List Nat) :
    (ss.define p name v).nearest? js x = ss.nearest? js x := by
  simp [nearest?, cell_define hp, hx]

/-- Where the written scope is not the nearest, the nearest one is what it was. -/
theorem nearest?_define_of_ne (hp : p < ss.size)
    (hne : (ss.define p name v).nearest? js name ≠ some p) :
    (ss.define p name v).nearest? js name = ss.nearest? js name := by
  induction js with
  | nil => rfl
  | cons j js ih =>
    have hj : j ≠ p := by
      rintro rfl
      exact hne (by simp [nearest?, cell_define hp])
    have hcell : (ss.define p name v).cell j name = ss.cell j name := by simp [cell_define hp, hj]
    unfold nearest? at hne ih ⊢
    rw [List.find?_cons, hcell] at hne
    rw [List.find?_cons, List.find?_cons, hcell]
    split
    · rfl
    · next hfree =>
      rw [hfree] at hne
      exact ih hne

/-- From the scope that assigns, the written scope is the nearest. -/
theorem nearest?_define_target (hp : p < ss.size) (hmem : p ∈ ids)
    (ht : ss.target? ids name = some p) :
    (ss.define p name v).nearest? ids name = some p := by
  cases hq : (ss.define p name v).nearest? ids name with
  | none =>
    have hfree := List.find?_eq_none.mp hq p hmem
    simp [cell_define hp] at hfree
  | some q =>
    by_cases hqp : q = p
    · rw [hqp]
    · have hne : (ss.define p name v).nearest? ids name ≠ some p := by simpa [hq] using hqp
      have hkeep := nearest?_define_of_ne hp hne
      rw [hq] at hkeep
      simp only [target?, ← hkeep, Option.some_or] at ht
      exact ht

/-- What any scope sees after a write: the written value where the written cell is the nearest, and
else what it saw. -/
theorem Lineage.get_define (h : Lineage ss j js) (hf : ss.Forest) (hp : p < ss.size) :
    (∀ x, x ≠ name → (ss.define p name v).get j x = ss.get j x) ∧
      (ss.define p name v).get j name =
        if (ss.define p name v).nearest? js name = some p then .ok v else ss.get j name := by
  constructor
  · intro x hx
    obtain ⟨q, -, hq⟩ := h.exists_target x
    have hq' : (ss.define p name v).target? js x = some q := by
      rw [target?, nearest?_define_other hp hx]
      exact hq
    rw [h.define.get_eq hf.define hq', h.get_eq hf hq, cell_define hp, if_neg fun hc => hx hc.2]
  · split
    · next hnear =>
      have ht : (ss.define p name v).target? js name = some p := by simp [target?, hnear]
      rw [h.define.get_eq hf.define ht, cell_define hp, if_pos ⟨rfl, rfl⟩]
      rfl
    · next hne =>
      obtain ⟨q, hq, ht⟩ := h.exists_target name
      have hkeep := nearest?_define_of_ne hp hne
      have ht' : (ss.define p name v).target? js name = some q := by
        rw [target?, hkeep]
        exact ht
      have hqp : q ≠ p := by
        rintro rfl
        exact hne (nearest?_define_target hp hq ht)
      rw [h.define.get_eq hf.define ht', h.get_eq hf ht, cell_define hp, if_neg fun hc => hqp hc.1]

/-- In a forest of scopes, assigning writes the cell of the nearest scope that binds the name, or of
the last scope on the way, and changes nothing else: no parent, no other cell of any scope, nothing
that any scope sees under another name, and what a scope sees under this name only where its nearest
cell is the one that was written. -/
theorem assign_changes_one_cell (h : ss.Forest) (hid : id < ss.size) (name : String) (v : Value) :
    ∃ ids p ss', Lineage ss id ids ∧ ss.target? ids name = some p ∧ ss.assign id name v = .ok ss' ∧
      ss'.size = ss.size ∧ (∀ j, ss'.parentOf j = ss.parentOf j) ∧
      (∀ j x, ss'.cell j x = if j = p ∧ x = name then some v else ss.cell j x) ∧
      ss'.get id name = .ok v ∧
      ∀ j < ss.size, ∃ js, Lineage ss j js ∧
        (∀ x, x ≠ name → ss'.get j x = ss.get j x ∧
          ((∃ w, ss.get j x = .ok w) ∨ ss.get j x = .error (.undefined x))) ∧
        ss'.get j name = if ss'.nearest? js name = some p then .ok v else ss.get j name := by
  obtain ⟨ids, hline⟩ := h.lineage hid
  obtain ⟨p, hmem, ht⟩ := hline.exists_target name
  have hp := hline.lt_size p hmem
  refine ⟨ids, p, ss.define p name v, hline, ht, hline.assign_eq h ht v, size_define,
    parentOf_define, cell_define hp, ?_, fun j hj => ?_⟩
  · rw [(hline.get_define h hp).2, if_pos (nearest?_define_target hp hmem ht)]
  · obtain ⟨js, hjs⟩ := h.lineage hj
    obtain ⟨hother, hname⟩ := hjs.get_define h hp
    refine ⟨js, hjs, fun x hx => ⟨hother x hx, ?_⟩, hname⟩
    obtain ⟨q, -, hq⟩ := hjs.exists_target x
    rw [hjs.get_eq h hq]
    cases ss.cell q x with
    | some w => exact .inl ⟨w, rfl⟩
    | none => exact .inr rfl

/-- Two branches of one forest: `x` is bound at its root and again in the second scope, below which
the fourth lies. -/
def branching : Scopes :=
  #[⟨some 2, []⟩, ⟨some 2, [("x", .int 5)]⟩, ⟨none, [("x", .int 1), ("y", .int 2)]⟩, ⟨some 1, []⟩]

theorem forest_branching : branching.Forest := by
  refine forest_of_measure (fun id => if id = 2 then 0 else if id = 3 then 2 else 1) ?_
  intro id p hp
  have hid : id < 4 := by
    cases hs : branching[id]? with
    | none => simp [parentOf, hs] at hp
    | some s => exact (Array.getElem?_eq_some_iff.mp hs).1
  obtain rfl | rfl | rfl | rfl : id = 0 ∨ id = 1 ∨ id = 2 ∨ id = 3 := by omega
  all_goals cases hp
  all_goals decide

theorem assign_shadowing_cell : branching.Forest ∧ 3 < branching.size ∧
    ∃ ss', branching.assign 3 "x" (.int 9) = .ok ss' ∧ ss'.get 3 "x" = .ok (.int 9) ∧
    ss'.get 3 "y" = .ok (.int 2) ∧
      ss'.get 0 "x" = .ok (.int 1) := by
  have hid : 3 < branching.size := by decide
  obtain ⟨ids, p, ss', hline, ht, hassign, -, -, -, hget, hall⟩ :=
    assign_changes_one_cell forest_branching hid "x" (.int 9)
  obtain rfl : p = 1 := by
    have hids : Lineage branching 3 [3, 1, 2] := .next rfl rfl (.next rfl rfl (.last rfl rfl))
    obtain rfl := hline.unique hids
    cases ht
    rfl
  obtain ⟨js, hjs, hother, -⟩ := hall 3 hid
  obtain ⟨ks, hks, -, hzero⟩ := hall 0 (by decide)
  refine ⟨forest_branching, hid, ss', hassign, hget, (hother "y" (by decide)).1, ?_⟩
  have hids : Lineage branching 0 [0, 2] := .next rfl rfl (.last rfl rfl)
  obtain rfl := hks.unique hids
  have hfar : ss'.nearest? [0, 2] "x" ≠ some 1 :=
    fun hn => by simpa using List.mem_of_find?_eq_some hn
  rw [hzero, if_neg hfar]
  rfl

end Writing

end Scopes
end FloScript
