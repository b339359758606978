import FloScript.Builtin
import FloScript.Value.Member
import FloScript.Value.Operator

/-! Properties of the references that a value holds, itself or in one of its parts. What is worked
out from values holds no other references than they and the bindings of the scopes do. -/
namespace FloScript
namespace Value

variable {R : Value → Prop} {v w : Value} {vs ws : List Value}
  {es : List (Value × Value)} {n k : Nat}

/-- The values that a value is made of. -/
def parts : Value → List Value
  | list vs | tuple vs => vs
  | dict es => es.flatMap fun e => [e.1, e.2]
  | method v _ _ => [v]
  | _ => []

/-- The scope that a value itself refers to: a function to the one in which it was made. -/
def scope? : Value → Option Nat
  | function _ c => some c.scope
  | scope id | bindings id | scopeMethod id _ => some id
  | _ => none

/-- Every reference to a scope that the value holds has the property. -/
inductive Holding (R : Value → Prop) : Value → Prop where
  | intro {v : Value} : (v.scope? ≠ none → R v) → (∀ w ∈ v.parts, Holding R w) → Holding R v

theorem holding_iff : Holding R v ↔ (v.scope? ≠ none → R v) ∧ ∀ w ∈ v.parts, Holding R w :=
  ⟨fun h => by cases h with | intro hs hp => exact ⟨hs, hp⟩, fun h => .intro h.1 h.2⟩

theorem sizeOf_lt_of_mem_parts (h : w ∈ v.parts) : sizeOf w < sizeOf v := by
  cases v with
  | list vs | tuple vs =>
    have hsize : sizeOf w < sizeOf vs := List.sizeOf_lt_of_mem h
    simp only [list.sizeOf_spec, tuple.sizeOf_spec]
    omega
  | dict es =>
    obtain ⟨e, he, hw⟩ := List.mem_flatMap.mp h
    have hsize := List.sizeOf_lt_of_mem he
    rcases e with ⟨k, u⟩
    simp only [Prod.mk.sizeOf_spec] at hsize
    simp only [dict.sizeOf_spec]
    rcases List.mem_cons.mp hw with rfl | hw
    · omega
    · obtain rfl := List.mem_singleton.mp hw
      omega
  | method u owner name =>
    obtain rfl := List.mem_singleton.mp h
    simp only [method.sizeOf_spec]
    omega
  | _ => cases h

theorem Holding.mono {S : Value → Prop} (h : Holding R v) (hS : ∀ v, R v → S v) : Holding S v := by
  induction h with
  | intro hs _ ih => exact .intro (fun hv => hS _ (hs hv)) ih

theorem holding_of_forall (h : ∀ v, R v) (v : Value) : Holding R v :=
  .intro (fun _ => h v) fun w _ => holding_of_forall h w
termination_by sizeOf v
decreasing_by exact sizeOf_lt_of_mem_parts (by assumption)

/-- All keys and values of entries hold references with the property only. -/
def EntriesHolding (R : Value → Prop) (es : List (Value × Value)) : Prop :=
  ∀ e ∈ es, Holding R e.1 ∧ Holding R e.2

@[simp] theorem entriesHolding_nil : EntriesHolding R [] := List.forall_mem_nil _

@[simp] theorem entriesHolding_cons :
    EntriesHolding R ((v, w) :: es) ↔ (Holding R v ∧ Holding R w) ∧ EntriesHolding R es :=
  List.forall_mem_cons

section
-- the equations of the two functions are worked out once, before the lemmas that need them
attribute [local simp] scope? parts

@[simp] theorem holding_list : Holding R (list vs) ↔ ∀ v ∈ vs, Holding R v := by
  rw [holding_iff]
  simp [scope?, parts]

@[simp] theorem holding_tuple : Holding R (tuple vs) ↔ ∀ v ∈ vs, Holding R v := by
  rw [holding_iff]
  simp [scope?, parts]

@[simp] theorem holding_dict : Holding R (dict es) ↔ EntriesHolding R es := by
  rw [holding_iff]
  simp only [scope?, parts, EntriesHolding, List.mem_flatMap]
  grind

@[simp] theorem holding_method {owner name : String} :
    Holding R (method v owner name) ↔ Holding R v := by
  rw [holding_iff]
  simp [scope?, parts]

@[simp] theorem holding_function {l : Nat} {c : Closure} :
    Holding R (function l c) ↔ R (function l c) := by
  rw [holding_iff]
  simp [scope?, parts]

@[simp] theorem holding_scope {id : Nat} : Holding R (scope id) ↔ R (scope id) := by
  rw [holding_iff]
  simp [scope?, parts]

@[simp] theorem holding_bindings {id : Nat} : Holding R (bindings id) ↔ R (bindings id) := by
  rw [holding_iff]
  simp [scope?, parts]

@[simp] theorem holding_scopeMethod {id : Nat} {name : String} :
    Holding R (scopeMethod id name) ↔ R (scopeMethod id name) := by
  rw [holding_iff]
  simp [scope?, parts]

end

/-- A value of another kind holds no reference. -/
theorem holding_of_plain (hs : v.scope? = none) (hp : v.parts = []) : Holding R v :=
  .intro (by simp [hs]) (by simp [hp])

@[simp] theorem holding_null : Holding R null := holding_of_plain rfl rfl

@[simp] theorem holding_bool {b : Bool} : Holding R (bool b) := holding_of_plain rfl rfl

@[simp] theorem holding_int {i : Int} : Holding R (int i) := holding_of_plain rfl rfl

@[simp] theorem holding_float {x : Float} : Holding R (float x) := holding_of_plain rfl rfl

@[simp] theorem holding_nan {l : Nat} : Holding R (nan l) := holding_of_plain rfl rfl

@[simp] theorem holding_text {s : String} : Holding R (text s) := holding_of_plain rfl rfl

@[simp] theorem holding_native {r : Native} : Holding R (native r) := holding_of_plain rfl rfl

@[simp] theorem holding_code {r : Native} : Holding R (code r) := holding_of_plain rfl rfl

@[simp] theorem holding_node {t : Node} : Holding R (node t) := holding_of_plain rfl rfl

@[simp] theorem holding_task {name : String} {id : Nat} : Holding R (task name id) :=
  holding_of_plain rfl rfl

section Nodes

@[simp] theorem holding_ofLiteral {l : Literal} : Holding R (ofLiteral l) := by
  cases l <;> simp [ofLiteral]

mutual

theorem holding_ofNode (t : Node) : Holding R (ofNode t) := by
  unfold ofNode
  split
  · exact holding_list.mpr (holding_ofNodes _)
  · exact holding_ofLiteral
  · exact holding_node

theorem holding_ofNodes : (ts : List Node) → ∀ v ∈ ofNodes ts, Holding R v
  | [] => List.forall_mem_nil _
  | t :: ts => List.forall_mem_cons.mpr ⟨holding_ofNode t, holding_ofNodes ts⟩

end

theorem holding_ofField (f : Node.Field) : Holding R (ofField f) := by
  cases f with
  | literal l => exact holding_ofLiteral
  | names ns => simp [ofField]
  | node t => exact holding_ofNode t
  | block ts => exact holding_list.mpr (holding_ofNodes ts)
  | pairs ps =>
    simp only [ofField, holding_list, List.mem_map]
    rintro _ ⟨p, -, rfl⟩
    simp [holding_ofNode]

end Nodes

section Entries

variable {ε α β : Type} {test : Value → Except Fault Bool} {ss : Scopes} {key : Value}

theorem except_bind_eq_ok {x : Except ε α} {f : α → Except ε β} {b : β} :
    (x >>= f) = .ok b ↔ ∃ a, x = .ok a ∧ f a = .ok b := by
  cases x with
  | error e => simp [bind, Except.bind]
  | ok a => simp [bind, Except.bind]

theorem holding_findEntry (he : EntriesHolding R es) (h : findEntry test es = .ok (some v)) :
    Holding R v := by
  induction es with
  | nil => cases h
  | cons e es ih =>
    obtain ⟨j, w⟩ := e
    obtain ⟨hw, hes⟩ := entriesHolding_cons.mp he
    obtain ⟨b, -, h⟩ := except_bind_eq_ok.mp h
    cases b with
    | true =>
      cases h
      exact hw.2
    | false => exact ih hes h

theorem holding_find? (he : EntriesHolding R es) (h : find? ss key es = .ok (some v)) :
    Holding R v := by
  obtain ⟨-, -, h⟩ := except_bind_eq_ok.mp h
  exact holding_findEntry he h

theorem entriesHolding_putEntry {es' : List (Value × Value)} (hk : Holding R key) (hv : Holding R v)
    (he : EntriesHolding R es) (h : putEntry test key v es = .ok es') : EntriesHolding R es' := by
  induction es generalizing es' with
  | nil =>
    cases h
    simp [hk, hv]
  | cons e es ih =>
    obtain ⟨j, w⟩ := e
    obtain ⟨hw, hes⟩ := entriesHolding_cons.mp he
    obtain ⟨b, -, h⟩ := except_bind_eq_ok.mp h
    cases b with
    | true =>
      cases h
      simp [hw.1, hv, hes]
    | false =>
      obtain ⟨fs, hfs, h⟩ := except_bind_eq_ok.mp h
      cases h
      simp [hw, ih hes hfs]

theorem entriesHolding_insert {es' : List (Value × Value)} (hk : Holding R key) (hv : Holding R v)
    (he : EntriesHolding R es) (h : insert ss key v es = .ok es') : EntriesHolding R es' := by
  obtain ⟨-, -, h⟩ := except_bind_eq_ok.mp h
  exact entriesHolding_putEntry hk hv he h

end Entries

section Members

variable {ss : Scopes} {name : String}

/-- What can be reached from references with the property has it too: the scope of a function, and
of a scope its bindings, its methods, its parent and what is bound in it. -/
structure Inherited (R : Value → Prop) (ss : Scopes) : Prop where
  closure : ∀ l c, R (function l c) → R (scope c.scope)
  vars : ∀ id, R (scope id) → R (bindings id)
  method : ∀ id name, R (scope id) → R (scopeMethod id name)
  parent : ∀ id p, R (scope id) → ss[id]?.bind (·.parent) = some p → R (scope p)
  bound : ∀ id, R (bindings id) → ∀ b ∈ ss.bindingsOf id, Holding R b.2

theorem entriesHolding_entries? (hs : Inherited R ss) (hv : Holding R v)
    (h : v.entries? ss = some es) :
    EntriesHolding R es := by
  unfold entries? at h
  split at h
  · cases h
    exact holding_dict.mp hv
  · cases h
    simp only [EntriesHolding, Bindings.entries, List.mem_map]
    rintro _ ⟨b, hb, rfl⟩
    exact ⟨holding_text, hs.bound _ (holding_bindings.mp hv) b hb⟩
  · cases h

theorem holding_numberPart? (hv : Holding R v) (h : v.numberPart? name = some w) : Holding R w := by
  unfold numberPart? at h
  split at h <;> cases h <;> simp [hv]

theorem holding_method? (hv : Holding R v) (h : v.method? name = some w) : Holding R w := by
  unfold method? at h
  simp only at h
  split at h
  · cases h
    exact holding_method.mpr hv
  · split at h
    · cases h
      exact holding_method.mpr hv
    · cases h

theorem holding_part? (hs : Inherited R ss) (hv : Holding R v) (h : v.part? ss name = some w) :
    Holding R w := by
  unfold part? at h
  split at h
  case h_1 => cases h; simp
  case h_2 => cases h; exact holding_list.mpr (holding_ofNodes _)
  case h_3 => cases h; exact holding_scope.mpr (hs.closure _ _ (holding_function.mp hv))
  case h_4 => cases h; simp
  case h_5 => cases h; simp
  case h_6 => cases h; simp
  case h_7 => cases h; exact holding_bindings.mpr (hs.vars _ (holding_scope.mp hv))
  case h_8 id =>
    cases h
    cases hp : ss[id]?.bind (·.parent) with
    | none => simp
    | some p => exact holding_scope.mpr (hs.parent id p (holding_scope.mp hv) hp)
  case h_9 => cases h; exact holding_scopeMethod.mpr (hs.method _ _ (holding_scope.mp hv))
  case h_10 => cases h; exact holding_scopeMethod.mpr (hs.method _ _ (holding_scope.mp hv))
  case h_11 => cases h; exact holding_scopeMethod.mpr (hs.method _ _ (holding_scope.mp hv))
  case h_12 =>
    obtain ⟨f, -, rfl⟩ := Option.map_eq_some_iff.mp h
    exact holding_ofField f
  case h_13 => cases h

theorem holding_member (hs : Inherited R ss) (hv : Holding R v) (h : v.member ss name = .ok w) :
    Holding R w := by
  have hparts :
      Holding R ((v.numberPart? name <|> v.part? ss name <|> v.method? name).getD null) := by
    cases hx : (v.numberPart? name <|> v.part? ss name <|> v.method? name) with
    | none => exact holding_null
    | some x =>
      simp only [Option.orElse_eq_orElse, Option.orElse_eq_or, Option.or_eq_some_iff] at hx
      rcases hx with hx | ⟨-, hx | ⟨-, hx⟩⟩
      · exact holding_numberPart? hv hx
      · exact holding_part? hs hv hx
      · exact holding_method? hv hx
  unfold member at h
  cases he : v.entries? ss with
  | none =>
    simp only [he] at h
    cases h
    exact hparts
  | some es =>
    simp only [he] at h
    obtain ⟨o, ho, h⟩ := except_bind_eq_ok.mp h
    cases o with
    | none =>
      cases h
      exact hparts
    | some x =>
      cases h
      exact holding_find? (entriesHolding_entries? hs hv he) ho

theorem holding_item? {i : Int} (hv : ∀ v ∈ vs, Holding R v) :
    Holding R ((item? vs i).getD null) := by
  cases hx : item? vs i with
  | none => exact holding_null
  | some x =>
    unfold item? at hx
    have hmem : x ∈ vs := by
      split at hx
      · split at hx
        · cases hx
        · exact List.mem_of_getElem? hx
      · exact List.mem_of_getElem? hx
    exact hv x hmem

theorem holding_characters {s : String} : ∀ v ∈ characters s, Holding R v := by
  simp [characters]

theorem holding_index {i : Value} (hs : Inherited R ss) (hv : Holding R v)
    (h : v.index ss i = .ok w) :
    Holding R w := by
  unfold index at h
  split at h
  · cases h
    exact holding_item? holding_characters
  · cases h
    exact holding_item? (holding_list.mp hv)
  · cases h
    exact holding_item? (holding_tuple.mp hv)
  · split at h
    · cases h
      exact holding_null
    · next es he =>
      split at h
      · cases h
        exact holding_null
      · obtain ⟨o, ho, h⟩ := except_bind_eq_ok.mp h
        cases h
        cases o with
        | none => exact holding_null
        | some x => exact holding_find? (entriesHolding_entries? hs hv he) ho

end Members

section Copies

theorem holding_append (hv : ∀ v ∈ vs, Holding R v) (hw : ∀ v ∈ ws, Holding R v) :
    ∀ v ∈ vs ++ ws, Holding R v :=
  List.forall_mem_append.mpr ⟨hv, hw⟩

theorem holding_repeated (hv : ∀ v ∈ vs, Holding R v) : ∀ v ∈ repeated k vs, Holding R v := by
  intro v h
  simp only [repeated, List.mem_flatten, List.mem_replicate] at h
  obtain ⟨_, ⟨-, rfl⟩, h⟩ := h
  exact hv v h

theorem holding_replicate {count : Int} (hv : Holding R v) (h : v.replicate count = .ok w) :
    Holding R w := by
  unfold replicate at h
  split at h
  · obtain ⟨_, -, h⟩ := except_bind_eq_ok.mp h
    cases h
    exact holding_text
  · obtain ⟨_, -, h⟩ := except_bind_eq_ok.mp h
    cases h
    exact holding_list.mpr (holding_repeated (holding_list.mp hv))
  · obtain ⟨_, -, h⟩ := except_bind_eq_ok.mp h
    cases h
    exact holding_tuple.mpr (holding_repeated (holding_tuple.mp hv))
  · cases h
    exact hv

theorem holding_steps {start stop step : Int} (h : Native.steps start stop step = .ok v) :
    Holding R v := by
  unfold Native.steps at h
  simp only at h
  split at h
  · cases h
  · split at h
    · cases h
    · cases h
      simp

theorem holding_rangeOf (h : Native.rangeOf vs = .ok v) : Holding R v := by
  unfold Native.rangeOf at h
  split at h
  · cases h
  · obtain ⟨_, -, h⟩ := except_bind_eq_ok.mp h
    exact holding_steps h
  · obtain ⟨_, -, h⟩ := except_bind_eq_ok.mp h
    obtain ⟨_, -, h⟩ := except_bind_eq_ok.mp h
    exact holding_steps h
  · obtain ⟨_, -, h⟩ := except_bind_eq_ok.mp h
    obtain ⟨_, -, h⟩ := except_bind_eq_ok.mp h
    obtain ⟨_, -, h⟩ := except_bind_eq_ok.mp h
    split at h
    · cases h
    · exact holding_steps h
  · cases h

end Copies

end Value
end FloScript
