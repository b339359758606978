import FloScript.Proofs.Discipline

/-! Evaluators that agree under a discipline, one lemma for each of their functions. If the nodes
that are met are evaluated alike one level down, so are they here, and the discipline is kept to. -/
namespace FloScript.Discipline

open Evaluator

variable {D : Discipline} {ev ev' : Evaluator} {own n k : Nat} {v w : Value}
  {vs : List Value} {ns : List Node}

/-- The nodes that are met are evaluated alike, in all scopes in which they may be. -/
def Alike (D : Discipline) (ev ev' : Evaluator) : Prop :=
  ∀ t, D.node t → ∀ own n, D.inside own n → D.Keeps own n D.Good (ev t own) (ev' t own)

/-- The bodies of the functions that may be there are run alike. -/
def AlikeBodies (D : Discipline) (ev ev' : Evaluator) : Prop :=
  ∀ l c own n, D.refers n (.function l c) → D.inside own n →
    D.Keeps own n D.Good (body ev own c.body) (body ev' own c.body)

section Blocks

theorem keeps_block (h : D.Alike ev ev') (ho : D.inside own n)
    (hns : ∀ t ∈ ns, D.node t) (hv : D.Good n v) :
    D.Keeps own n D.Good (block ev own v ns) (block ev' own v ns) := by
  induction ns generalizing v n with
  | nil => exact obeys_value hv
  | cons t ns ih =>
    obtain ⟨ht, hns⟩ := List.forall_mem_cons.mp hns
    exact keeps_bind (h t ht own n ho) fun w k hk hw => ih (D.inside_mono ho hk) hns hw

theorem keeps_all (h : D.Alike ev ev') (ho : D.inside own n) (hns : ∀ t ∈ ns, D.node t) :
    D.Keeps own n D.AllGood (all ev own ns) (all ev' own ns) := by
  induction ns generalizing n with
  | nil => exact obeys_pure fun _ _ => List.forall_mem_nil _
  | cons t ns ih =>
    obtain ⟨ht, hns⟩ := List.forall_mem_cons.mp hns
    refine keeps_bind (h t ht own n ho) fun w k hk hw => ?_
    refine keeps_bind (ih (D.inside_mono ho hk) hns) fun ws j hj hws => obeys_pure fun i hi => ?_
    exact List.forall_mem_cons.mpr ⟨hw.mono (Nat.le_trans hj hi), hws.mono hi⟩

theorem keeps_entries (h : D.Alike ev ev') (ho : D.inside own n) {ps : List (Node × Node)}
    (hps : ∀ p ∈ ps, D.node p.1 ∧ D.node p.2) {es : List (Value × Value)}
    (hes : D.EntriesGood n es) :
    D.Keeps own n D.EntriesGood (entries ev own es ps) (entries ev' own es ps) := by
  induction ps generalizing es n with
  | nil => exact obeys_pure fun _ hk => hes.mono hk
  | cons p ps ih =>
    obtain ⟨⟨hkey, hvalue⟩, hps⟩ := List.forall_mem_cons.mp hps
    refine keeps_bind (h p.1 hkey own n ho) fun key k hk hgood => ?_
    refine keeps_bind (h p.2 hvalue own k (D.inside_mono ho hk)) fun value j hj hgood' => ?_
    refine keeps_bind obeys_scopes fun ss i hi _ => ?_
    have hni : n ≤ i := Nat.le_trans hk (Nat.le_trans hj hi)
    have hinsert (es' : List (Value × Value)) (hes' : Value.insert ss key value es = .ok es') :
        D.EntriesGood i es' :=
      Value.entriesHolding_insert (hgood.mono (Nat.le_trans hj hi))
        (hgood'.mono hi) (hes.mono hni) hes'
    refine keeps_bind (obeys_lift (calm_insert key value es) fun es' hes' _ hl =>
      (hinsert es' hes').mono hl) ?_
    exact fun es' l hl hes' => ih (D.inside_mono ho (Nat.le_trans hni hl)) hps hes'

end Blocks

section Calls

theorem obeys_parameters (ps : List String) (hv : D.AllGood n vs) :
    D.Obeys own n (fun _ _ => True) (Evaluator.bind own ps vs) := by
  induction ps generalizing vs n with
  | nil => exact obeys_pure fun _ _ => trivial
  | cons p ps ih =>
    have hhead : D.Good n (vs.headD .null) := by
      cases vs with
      | nil => exact Value.holding_null
      | cons v vs => exact hv v List.mem_cons_self
    have htail : D.AllGood n vs.tail := fun v h => hv v (List.mem_of_mem_tail h)
    exact keeps_bind (obeys_define hhead) fun _ k hk _ => ih (htail.mono hk)

/-- A body in which only nodes are met that may be. -/
theorem keeps_body (h : D.Alike ev ev') (ho : D.inside own n) (hns : ∀ t ∈ ns, D.node t) :
    D.Keeps own n D.Good (body ev own ns) (body ev' own ns) := by
  refine keeps_bind (keeps_capture (keeps_block h ho hns Value.holding_null)) fun r k hk hr => ?_
  split
  · -- a returned value becomes the value of the call, so the signal must not have smuggled in a
    -- reference
    exact obeys_value (hr.2 _ rfl)
  · exact obeys_release fun j hj => hr.mono hj

/-- What a call does counts as done in the scope of the call, whichever scope it is made from. -/
theorem keeps_call (h : D.AlikeBodies ev ev') (hw : D.Good n w) (hv : D.AllGood n vs) :
    D.Keeps own n D.Good (call ev w vs) (call ev' w vs) := by
  unfold call
  cases w with
  | native r => exact obeys_native r hv
  | function l c =>
    have hc : D.refers n (.function l c) := Value.holding_function.mp hw
    refine keeps_callScope (D.closure hc) fun id k hk hid => ?_
    refine keeps_bind (obeys_parameters _ (hv.mono hk)) fun _ j hj _ => ?_
    exact h l c id j (D.refers_mono hc (Nat.le_trans hk hj)) (D.inside_mono hid hj)
  | _ =>
    exact keeps_bind obeys_scopes fun ss _ _ _ =>
      obeys_bind_lift (calm_display _) fun _ => obeys_fail rfl

end Calls

section Loops

theorem keeps_loop (h : D.Alike ev ev') (ho : D.inside own n) {c : Node} (hc : D.node c)
    (hns : ∀ t ∈ ns, D.node t) (rounds : Nat) (hv : D.Good n v) :
    D.Keeps own n D.Good (loop ev own c ns rounds v) (loop ev' own c ns rounds v) := by
  induction rounds generalizing v n with
  | zero => exact obeys_throw allows_unfinished
  | succ rounds ih =>
    refine keeps_bind (h c hc own n ho) fun b k hk _ => keeps_bind obeys_scopes fun ss j hj _ => ?_
    have hnj : n ≤ j := Nat.le_trans hk hj
    have hoj : D.inside own j := D.inside_mono ho hnj
    split
    · exact keeps_bind (keeps_block h hoj hns (hv.mono hnj)) fun w i hi hw =>
        ih (D.inside_mono hoj hi) hw
    · exact obeys_value (hv.mono hnj)

theorem keeps_each (h : D.Alike ev ev') (ho : D.inside own n) (name : String)
    (hns : ∀ t ∈ ns, D.node t) (hv : D.Good n v) (hvs : D.AllGood n vs) :
    D.Keeps own n D.Good (each ev own name ns v vs) (each ev' own name ns v vs) := by
  induction vs generalizing v n with
  | nil => exact obeys_value hv
  | cons item vs ih =>
    obtain ⟨hitem, hvs⟩ := List.forall_mem_cons.mp hvs
    refine keeps_bind (obeys_define hitem) fun _ k hk _ => ?_
    have hok : D.inside own k := D.inside_mono ho hk
    refine keeps_bind (keeps_block h hok hns (hv.mono hk)) fun w j hj hw => ?_
    exact ih (D.inside_mono hok hj) hw (AllGood.mono hvs (Nat.le_trans hk hj))

theorem keeps_eachName (h : D.Alike ev ev') (ho : D.inside own n) (name : String)
    (hns : ∀ t ∈ ns, D.node t) (id size left : Nat) (hv : D.Good n v) :
    D.Keeps own n D.Good (eachName ev own name ns id size left v)
      (eachName ev' own name ns id size left v) := by
  induction left generalizing v n with
  | zero =>
    refine keeps_bind obeys_scopes fun ss k hk _ => ?_
    split
    · exact obeys_value (hv.mono hk)
    · exact obeys_fail rfl
  | succ left ih =>
    refine keeps_bind obeys_scopes fun ss k hk _ => ?_
    simp only
    split
    · exact obeys_fail rfl
    · split
      · exact obeys_value (hv.mono hk)
      · refine keeps_bind (obeys_define Value.holding_text) fun _ j hj _ => ?_
        have hnj : n ≤ j := Nat.le_trans hk hj
        have hoj : D.inside own j := D.inside_mono ho hnj
        exact keeps_bind (keeps_block h hoj hns (hv.mono hnj)) fun w i hi hw =>
          ih (D.inside_mono hoj hi) hw

theorem keeps_iterate (h : D.Alike ev ev') (ho : D.inside own n) (name : String)
    (hns : ∀ t ∈ ns, D.node t) (hv : D.Good n v) :
    D.Keeps own n D.Good (iterate ev own name ns v) (iterate ev' own name ns v) := by
  unfold iterate
  cases v with
  | list items => exact keeps_each h ho name hns Value.holding_null (Value.holding_list.mp hv)
  | tuple items => exact keeps_each h ho name hns Value.holding_null (Value.holding_tuple.mp hv)
  | text s => exact keeps_each h ho name hns Value.holding_null Value.holding_characters
  | dict es =>
    refine keeps_each h ho name hns Value.holding_null fun w hw => ?_
    obtain ⟨e, he, rfl⟩ := List.mem_map.mp hw
    exact (Value.holding_dict.mp hv e he).1
  | bindings id =>
    refine keeps_bind obeys_scopes fun ss k hk _ => ?_
    exact keeps_eachName h (D.inside_mono ho hk) name hns _ _ _ Value.holding_null
  | _ => exact obeys_fail rfl

end Loops

section Attempts

variable {clause last : Option (List Node)} {e : Signal}

theorem obeys_caughtText (e : Signal) : D.Obeys own n (fun _ _ => True) (caughtText e) := by
  cases e with
  | fault f => exact obeys_pure fun _ _ => trivial
  | returned v =>
    exact keeps_bind obeys_scopes fun ss _ _ _ => obeys_lift (calm_display v) fun _ _ _ _ => trivial
  | unfinished => exact obeys_throw allows_unfinished

theorem keeps_handle (h : D.Alike ev ev') (ho : D.inside own n) (name : Option String)
    (hclause : ∀ t ∈ clause.getD [], D.node t) (he : D.Allows n e) :
    D.Keeps own n D.Good (handle ev own name clause e) (handle ev' own name clause e) := by
  rcases clause with _ | _ | ⟨t, ns⟩
  · exact obeys_throw he
  · exact obeys_throw he
  · refine keeps_newScope ho fun id k hk hid => ?_
    have hblock (j : Nat) (hj : k ≤ j) :
        D.Keeps id j D.Good (block ev id .null (t :: ns)) (block ev' id .null (t :: ns)) :=
      keeps_block h (D.inside_mono hid hj) hclause Value.holding_null
    cases name with
    | none => exact hblock k (Nat.le_refl k)
    | some x =>
      cases hx : x.isEmpty with
      | true =>
        simp only [hx]
        exact hblock k (Nat.le_refl k)
      | false =>
        simp only [hx]
        refine keeps_bind (obeys_caughtText e) fun s j hj _ => ?_
        exact keeps_bind (obeys_define Value.holding_text) fun _ i hi _ =>
          hblock i (Nat.le_trans hj hi)

theorem keeps_guarded (h : D.Alike ev ev') (ho : D.inside own n) (name : Option String)
    (hns : ∀ t ∈ ns, D.node t) (hclause : ∀ t ∈ clause.getD [], D.node t) :
    D.Keeps own n (D.Ends D.Good) (guarded ev own ns name clause)
      (guarded ev' own ns name clause) := by
  refine keeps_bind (keeps_capture (keeps_block h ho hns Value.holding_null)) fun r k hk hr => ?_
  split
  · exact obeys_pure fun _ hj => hr.mono hj
  · exact obeys_throw allows_unfinished
  · exact keeps_capture (keeps_handle h (D.inside_mono ho hk) name hclause hr)

theorem keeps_settle (h : D.Alike ev ev') (ho : D.inside own n)
    (hlast : ∀ t ∈ last.getD [], D.node t) {r : Except Signal Value} (hr : D.Ends D.Good n r) :
    D.Keeps own n D.Good (settle ev own last r) (settle ev' own last r) := by
  unfold settle
  split
  · exact obeys_throw allows_unfinished
  · refine keeps_bind (keeps_block h ho hlast Value.holding_null) fun _ k hk _ => ?_
    exact obeys_release fun j hj => hr.mono (Nat.le_trans hk hj)

theorem keeps_attempt (h : D.Alike ev ev') (ho : D.inside own n) (name : Option String)
    (hns : ∀ t ∈ ns, D.node t) (hclause : ∀ t ∈ clause.getD [], D.node t)
    (hlast : ∀ t ∈ last.getD [], D.node t) :
    D.Keeps own n D.Good (attempt ev own ns name clause last)
      (attempt ev' own ns name clause last) := by
  rw [attempt_eq, attempt_eq]
  refine keeps_bind (keeps_guarded h ho name hns hclause) fun r k hk hr => ?_
  exact keeps_settle h (D.inside_mono ho hk) hlast hr

theorem obeys_await (hv : D.Good n v) : D.Obeys own n D.Good (await v) := by
  unfold await
  split
  · refine keeps_bind obeys_get fun m k hk hm => ?_
    split
    · next w hw =>
      have hgood : D.Good k w := hm.2 ▸ D.waiting _ hm.1 hw
      exact keeps_bind (obeys_takeTask _) fun _ j hj _ => obeys_value (hgood.mono hj)
    · exact obeys_fail rfl
  · exact obeys_value hv

end Attempts

section Nodes

theorem obeys_literal (l : Literal) : D.Obeys own n D.Good (literal l) := by
  cases l with
  | float x => exact obeys_ofNumber (.float x)
  | _ => exact obeys_value Value.holding_ofLiteral

theorem keeps_returning (h : D.Alike ev ev') (ho : D.inside own n) (rounds : Nat) {x : Option Node}
    (hx : D.node (.returning x)) :
    D.Keeps own n D.Good (step ev rounds (.returning x) own)
      (step ev' rounds (.returning x) own) := by
  have hsignal (v : Value) (k : Nat) (hv : D.Good k v) :
      D.Obeys own k D.Good (throw (.returned v)) :=
    obeys_throw (allows_returned (D.returning x hx v) hv)
  cases x with
  | none => exact hsignal _ _ Value.holding_null
  | some y =>
    simp only [step]
    split
    · exact keeps_bind (h y (D.evaluated _ hx y List.mem_cons_self) own n ho) fun v k _ hv =>
        hsignal v k hv
    · exact hsignal _ _ Value.holding_null

theorem keeps_function (ho : D.inside own n) (rounds : Nat) {name : Option String}
    {ps : List String} {isAsync : Bool} (hf : D.node (.function name ps ns isAsync)) :
    D.Keeps own n D.Good (step ev rounds (.function name ps ns isAsync) own)
      (step ev' rounds (.function name ps ns isAsync) own) := by
  refine keeps_bind obeys_label fun l k hk _ => ?_
  have hgood (j : Nat) (hj : k ≤ j) : D.Good j (.function l ⟨ps, ns, own, isAsync⟩) :=
    Value.holding_function.mpr (D.function hf (D.inside_mono ho (Nat.le_trans hk hj)) l)
  split
  · split
    · exact obeys_value (hgood k (Nat.le_refl k))
    · exact keeps_bind (obeys_define (hgood k (Nat.le_refl k))) fun _ j hj _ =>
        obeys_value (hgood j hj)
  · exact obeys_value (hgood k (Nat.le_refl k))

theorem keeps_binary (h : D.Alike ev ev') (ho : D.inside own n) (rounds : Nat)
    {l r : Node} {op : String} (ht : D.node (.binary l op r)) :
    D.Keeps own n D.Good (step ev rounds (.binary l op r) own)
      (step ev' rounds (.binary l op r) own) := by
  obtain ⟨hl, hr, -⟩ :=
    List.forall_mem_cons.mp (D.evaluated _ ht) |>.imp_right List.forall_mem_cons.mp
  refine keeps_bind (h l hl own n ho) fun a k hk ha => ?_
  refine keeps_bind (h r hr own k (D.inside_mono ho hk)) fun b j hj hb => ?_
  split
  · exact obeys_apply _ (ha.mono hj) hb
  · next hop => exact obeys_throw (allows_fault (D.binary _ _ _ ht hop))

theorem keeps_unary (h : D.Alike ev ev') (ho : D.inside own n) (rounds : Nat)
    {x : Node} {op : String} (ht : D.node (.unary op x)) :
    D.Keeps own n D.Good (step ev rounds (.unary op x) own)
      (step ev' rounds (.unary op x) own) := by
  refine keeps_bind (h x (D.evaluated _ ht x List.mem_cons_self) own n ho) fun v _ _ _ => ?_
  split
  · exact obeys_negate
  · exact keeps_bind obeys_scopes fun ss _ _ _ => obeys_value Value.holding_bool
  · next hminus hnot => exact obeys_throw (allows_fault (D.unary _ _ ht hminus hnot))

/-- One case for each form of node. -/
theorem alike_step (h : D.Alike ev ev') (hbodies : D.AlikeBodies ev ev') (rounds : Nat) :
    D.Alike (step ev rounds) (step ev' rounds) := by
  intro t ht own n ho
  have hparts := D.evaluated t ht
  have hunhandled (hk : t.isHandled = false) :
      D.Obeys own n D.Good (Run.fail (.runtime (.unknownNode t.typeName))) :=
    obeys_throw (allows_fault (D.unhandled t ht hk))
  cases t with
  | program ns => exact keeps_block h ho hparts Value.holding_null
  | number l | string l | boolean l => exact obeys_literal l
  | null => exact obeys_value Value.holding_null
  | identifier name => exact obeys_lookup ho
  | binary l op r => exact keeps_binary h ho rounds ht
  | unary op x => exact keeps_unary h ho rounds ht
  | assignment name x =>
    refine keeps_bind (h x (hparts x List.mem_cons_self) own n ho) fun v k hk hv => ?_
    exact keeps_bind (obeys_assign (D.inside_mono ho hk) hv) fun _ j hj _ =>
      obeys_value (hv.mono hj)
  | call f xs =>
    obtain ⟨hf, hxs⟩ := List.forall_mem_cons.mp hparts
    refine keeps_bind (h f hf own n ho) fun g k hk hg => ?_
    refine keeps_bind (keeps_all h (D.inside_mono ho hk) hxs) fun vs j hj hvs => ?_
    exact keeps_call hbodies (hg.mono hj) hvs
  | member x name =>
    refine keeps_bind (h x (hparts x List.mem_cons_self) own n ho) fun v k _ hv => ?_
    exact obeys_read (fun _ => calm_member v name) fun ss j hj hs w hw =>
      Value.holding_member hs (hv.mono hj) hw
  | index x i =>
    obtain ⟨hx, hi⟩ := List.forall_mem_cons.mp hparts
    refine keeps_bind (h x hx own n ho) fun v k hk hv => ?_
    refine keeps_bind (h i (hi i List.mem_cons_self) own k (D.inside_mono ho hk)) fun u j hj _ => ?_
    refine obeys_read (fun _ => calm_index v u) fun ss l hl hs w hw => ?_
    exact Value.holding_index hs (hv.mono (Nat.le_trans hj hl)) hw
  | list ns =>
    exact keeps_bind (keeps_all h ho hparts) fun vs k _ hvs =>
      obeys_value (Value.holding_list.mpr hvs)
  | dict ps =>
    have hps : ∀ p ∈ ps, D.node p.1 ∧ D.node p.2 := by
      intro p hp
      have hmem (k : Node) (hk : k ∈ [p.1, p.2]) : D.node k :=
        hparts k (List.mem_flatMap.mpr ⟨p, hp, hk⟩)
      exact ⟨hmem _ (by simp), hmem _ (by simp)⟩
    refine keeps_bind (keeps_entries h ho hps Value.entriesHolding_nil) fun es k _ hes => ?_
    exact obeys_value (Value.holding_dict.mpr hes)
  | conditional c yes no =>
    obtain ⟨hc, hblocks⟩ := List.forall_mem_cons.mp hparts
    obtain ⟨hyes, hno⟩ := List.forall_mem_append.mp hblocks
    refine keeps_bind (h c hc own n ho) fun v k hk _ => keeps_bind obeys_scopes fun ss j hj _ => ?_
    have hoj : D.inside own j := D.inside_mono ho (Nat.le_trans hk hj)
    split
    · exact keeps_block h hoj hyes Value.holding_null
    · exact keeps_block h hoj hno Value.holding_null
  | whileLoop c ns =>
    obtain ⟨hc, hns⟩ := List.forall_mem_cons.mp hparts
    exact keeps_loop h ho hc hns rounds Value.holding_null
  | forLoop name x ns =>
    obtain ⟨hx, hns⟩ := List.forall_mem_cons.mp hparts
    refine keeps_bind (h x hx own n ho) fun v k hk hv => ?_
    exact keeps_iterate h (D.inside_mono ho hk) name hns hv
  | function name ps ns isAsync => exact keeps_function ho rounds ht
  | returning x => exact keeps_returning h ho rounds ht
  | trying ns name clause last =>
    obtain ⟨hns, hclauses⟩ := List.forall_mem_append.mp hparts
    obtain ⟨hclause, hlast⟩ := List.forall_mem_append.mp hclauses
    exact keeps_attempt h ho name hns hclause hlast
  | await x =>
    exact keeps_bind (h x (hparts x List.mem_cons_self) own n ho) fun v k _ hv => obeys_await hv
  | decorator name args => exact obeys_value Value.holding_null
  | decorated ds f => exact h f (hparts f List.mem_cons_self) own n ho
  | blank | group ns | stray l => exact hunhandled rfl

end Nodes

section Depths

/-- Evaluation keeps to the discipline if the functions that may be there have bodies made of nodes
that are met. And it agrees with evaluators that do the same step at each depth wherever the
discipline is kept to. -/
theorem alike_eval {rounds : Nat} {evs : Nat → Evaluator}
    (hbody : ∀ n l c, D.refers n (.function l c) → ∀ t ∈ c.body, D.node t)
    (hzero : ∀ t own, evs 0 t own = Run.fail .depth)
    (hsucc : ∀ depth t own m, D.node t → D.fit m → D.inside own (D.extent m) →
      D.fit (endState (step (evs depth) rounds t own) m) →
      D.moves own m (endState (step (evs depth) rounds t own) m) →
        evs (depth + 1) t own m = step (evs depth) rounds t own m) (depth : Nat) :
    D.Alike (eval rounds depth) (evs depth) := by
  induction depth with
  | zero =>
    intro t _ own n _
    rw [hzero]
    exact obeys_fail rfl
  | succ depth ih =>
    intro t ht own n ho m hm hle
    have hbodies : D.AlikeBodies (eval rounds depth) (evs depth) :=
      fun l c _ _ hc hid => keeps_body ih hid (hbody _ l c hc)
    obtain ⟨heq, hfit, hmoves, hres⟩ := alike_step ih hbodies rounds t ht own n ho m hm hle
    refine ⟨?_, hfit, hmoves, hres⟩
    rw [endState_congr heq] at hfit hmoves
    exact heq.trans (hsucc depth t own m ht hm (D.inside_mono ho hle) hfit hmoves).symm

/-- Evaluation keeps to the discipline. -/
theorem obeys_eval (hbody : ∀ n l c, D.refers n (.function l c) → ∀ t ∈ c.body, D.node t)
    (rounds depth : Nat) :
    D.Alike (eval rounds depth) (eval rounds depth) :=
  alike_eval hbody (fun _ _ => rfl) (fun _ _ _ _ _ _ _ _ _ => rfl) depth

end Depths

end FloScript.Discipline
