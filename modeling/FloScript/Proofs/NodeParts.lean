import FloScript.Node

/-! The parts of a tree. Which nodes count as the parts of a node is a parameter: all of them, those
outside of function bodies, or those that are evaluated with the node. -/
namespace FloScript.Node

/-- The nodes that a node is made of. -/
def children : Node → List Node
  | binary l _ r => [l, r]
  | unary _ x | assignment _ x | member x _ | await x => [x]
  | index x i => [x, i]
  | call f xs => f :: xs
  | list ns | program ns | group ns | decorator _ ns | function _ _ ns _ => ns
  | dict ps => ps.flatMap fun p => [p.1, p.2]
  | conditional c yes no => c :: (yes ++ no.getD [])
  | whileLoop c ns | forLoop _ c ns => c :: ns
  | returning x => x.toList
  | trying ns _ clause last => ns ++ (clause.getD [] ++ last.getD [])
  | decorated ds f => f :: ds
  | blank | number _ | string _ | boolean _ | null | identifier _ | stray _ => []

/-- The nodes that a node is made of; a function keeps its body to itself. -/
def outerChildren : Node → List Node
  | function .. => []
  | n => n.children

/-- The nodes that may be evaluated when the node is: the body of a function waits for a call, and
decorators are never evaluated. -/
def evaluated : Node → List Node
  | function .. | decorator .. | group _ => []
  | decorated _ f => [f]
  | n => n.children

/-- Whether evaluation knows what to do with the node. -/
def isHandled : Node → Bool
  | blank | group _ | stray _ => false
  | _ => true

variable {parts : Node → List Node} {p q : Node → Prop} {n k t : Node}

/-- One tree is another one, or stands inside it. -/
inductive Part (parts : Node → List Node) : Node → Node → Prop where
  | self {t : Node} : Part parts t t
  | inner {n k t : Node} : k ∈ parts t → Part parts n k → Part parts n t

theorem Part.trans (h : Part parts n k) (hk : Part parts k t) : Part parts n t := by
  induction hk with
  | self => exact h
  | inner hmem _ ih => exact .inner hmem ih

/-- A property of a tree and of all that stands inside it. -/
def Everywhere (parts : Node → List Node) (p : Node → Prop) (t : Node) : Prop :=
  ∀ n, Part parts n t → p n

theorem everywhere_iff : Everywhere parts p t ↔ p t ∧ ∀ k ∈ parts t, Everywhere parts p k := by
  constructor
  · intro h
    exact ⟨h t .self, fun k hk n hn => h n (.inner hk hn)⟩
  · rintro ⟨ht, hparts⟩ n hn
    cases hn with
    | self => exact ht
    | inner hk hn => exact hparts _ hk n hn

theorem Everywhere.self (h : Everywhere parts p t) : p t := h t .self

theorem Everywhere.part (h : Everywhere parts p t) (hk : k ∈ parts t) : Everywhere parts p k :=
  (everywhere_iff.mp h).2 k hk

theorem Everywhere.within (h : Everywhere parts p t) (hk : Part parts k t) : Everywhere parts p k :=
  fun n hn => h n (hn.trans hk)

theorem Everywhere.imp (h : Everywhere parts p t) (hq : ∀ n, p n → q n) : Everywhere parts q t :=
  fun n hn => hq n (h n hn)

theorem mem_children_of_evaluated (h : k ∈ t.evaluated) : k ∈ t.children := by
  cases t with
  | function name ps ns isAsync | decorator name ns | group ns => cases h
  | decorated ds f => exact List.mem_cons.mpr (.inl (List.mem_singleton.mp h))
  | _ => exact h

theorem mem_outerChildren_of_evaluated (h : k ∈ t.evaluated) : k ∈ t.outerChildren := by
  have hk := mem_children_of_evaluated h
  cases t with
  | function name ps ns isAsync => cases h
  | _ => exact hk

end FloScript.Node
