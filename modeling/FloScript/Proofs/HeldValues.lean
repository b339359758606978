import FloScript.Proofs.ValueParts

/-! The scopes that a value refers to, itself or in one of its parts, and the graph of scopes in
which every reference leads to a scope there is. -/
namespace FloScript
namespace Value

variable {n k : Nat} {v : Value}

/-- The value itself refers to one of the first `n` scopes, or to none. -/
def RefersBelow (n : Nat) (v : Value) : Prop := ∀ id, v.scope? = some id → id < n

theorem RefersBelow.mono (h : RefersBelow n v) (hk : n ≤ k) : RefersBelow k v :=
  fun id hid => Nat.lt_of_lt_of_le (h id hid) hk

/-- The value and all its parts refer to the first `n` scopes only. -/
abbrev Within (n : Nat) : Value → Prop := Holding (RefersBelow n)

theorem Within.mono (h : Within n v) (hk : n ≤ k) : Within k v :=
  Holding.mono h fun _ hr => hr.mono hk

/-- All values of a list refer to the first `n` scopes only. -/
def AllWithin (n : Nat) (vs : List Value) : Prop := ∀ v ∈ vs, Within n v

theorem refersBelow_function {l : Nat} {c : Closure} :
    RefersBelow n (function l c) ↔ c.scope < n := by
  simp [RefersBelow, scope?]

end Value

/-- The scopes form a tree below the globals, and the values in them refer to no other scopes. A
parent is always older than its children. -/
structure Scopes.Sound (ss : Scopes) : Prop where
  root : ∃ bs, ss[Machine.globals]? = some ⟨none, bs⟩
  below : ∀ (id : Nat) (s : Scope), ss[id]? = some s → id ≠ Machine.globals →
    ∃ p, s.parent = some p ∧ p < id
  held : ∀ (id : Nat) (s : Scope), ss[id]? = some s → ∀ b ∈ s.bindings, b.2.Within ss.size

namespace Scopes.Sound

variable {ss : Scopes} {id p : Nat} {b : String × Value}

theorem globals_lt (h : ss.Sound) : Machine.globals < ss.size :=
  (Array.getElem?_eq_some_iff.mp h.root.choose_spec).1

theorem within_of_mem (h : ss.Sound) (hb : b ∈ ss.bindingsOf id) : b.2.Within ss.size := by
  unfold bindingsOf at hb
  cases hs : ss[id]? with
  | none => simp [hs] at hb
  | some s => exact h.held id s hs b (by simpa [hs] using hb)

theorem parent_lt (h : ss.Sound) (hp : ss[id]?.bind (·.parent) = some p) : p < ss.size := by
  cases hs : ss[id]? with
  | none => simp [hs] at hp
  | some s =>
    have hid : id < ss.size := (Array.getElem?_eq_some_iff.mp hs).1
    simp only [hs, Option.bind_some] at hp
    by_cases hglobal : id = Machine.globals
    · obtain ⟨bs, hroot⟩ := h.root
      rw [hglobal, hroot] at hs
      cases hs
      cases hp
    · obtain ⟨q, hq, hlt⟩ := h.below id s hs hglobal
      rw [hp] at hq
      cases hq
      omega

theorem inherited (h : ss.Sound) : Value.Inherited (Value.RefersBelow ss.size) ss where
  closure _ c hc := hc
  vars _ hid := hid
  method _ _ hid := hid
  parent _ p _ hp := by
    rintro _ ⟨rfl⟩
    exact h.parent_lt hp
  bound _ _ b hb := h.within_of_mem hb

end Scopes.Sound
end FloScript
