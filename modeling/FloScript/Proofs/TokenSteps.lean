import FloScript.Proofs.Clause
import FloScript.Proofs.EndStates

/-! The way of a parser. Whether it ends with a result or with a fault, it has gone forward from
where it stood, and it has passed no end mark. -/
namespace FloScript.Parser

variable {α β : Type} {p : Parser α} {f : α → Parser β} {k wanted close : Kind}
  {t : Token} {ts us vs : List Token}

/-- Some tokens are passed, and none of them is an end mark. -/
def Passes (ts us : List Token) : Prop := ∃ passed, ts = passed ++ us ∧ ∀ t ∈ passed, t.kind ≠ .eof

theorem Passes.refl (ts : List Token) : Passes ts ts := ⟨[], rfl, List.forall_mem_nil _⟩

theorem Passes.single (ht : t.kind ≠ .eof) : Passes (t :: ts) ts :=
  ⟨[t], rfl, List.forall_mem_singleton.mpr ht⟩

theorem Passes.trans (h : Passes ts us) (h' : Passes us vs) : Passes ts vs := by
  obtain ⟨first, rfl, hfirst⟩ := h
  obtain ⟨second, rfl, hsecond⟩ := h'
  exact ⟨first ++ second, (List.append_assoc ..).symm, List.forall_mem_append.mpr ⟨hfirst, hsecond⟩⟩

theorem Passes.ended (h : Passes ts us) (he : Ended ts) : Ended us := by
  obtain ⟨passed, rfl, hne⟩ := h
  induction passed with
  | nil => exact he
  | cons t passed ih =>
    obtain ⟨ht, hne⟩ := List.forall_mem_cons.mp hne
    exact ih hne (he.tail ht)

/-- The parser goes forward from the tokens, over no end mark. -/
def Goes (p : Parser α) (ts : List Token) : Prop := Passes ts (endState p ts)

/-- The parser does so on all tokens that end with an end mark. -/
def Forward (p : Parser α) : Prop := ∀ ts, Ended ts → Goes p ts

section Steps

theorem goes_bind (he : Ended ts) (hp : Goes p ts)
    (hf : ∀ a us, Ended us → p ts = .ok a us → Goes (f a) us) :
    Goes (p >>= f) ts := by
  unfold Goes at hp ⊢
  cases hr : p ts with
  | ok a us =>
    rw [endState_of_ok hr] at hp
    rw [endState_bind_of_ok hr]
    exact hp.trans (hf a us (hp.ended he) hr)
  | error e us =>
    rw [endState_of_error hr] at hp
    rwa [endState_bind_of_error hr]

theorem goes_still (h : endState p ts = ts) : Goes p ts := by
  unfold Goes
  rw [h]
  exact .refl ts

theorem forward_bind (hp : Forward p) (hf : ∀ a, Forward (f a)) : Forward (p >>= f) :=
  fun ts he => goes_bind he (hp ts he) fun a us hu _ => hf a us hu

theorem forward_pure (a : α) : Forward (pure a : Parser α) := fun _ _ => goes_still rfl

theorem forward_throw (e : Fault) : Forward (throw e : Parser α) := fun _ _ => goes_still rfl

theorem forward_get : Forward (get : Parser (List Token)) := fun _ _ => goes_still rfl

theorem forward_current : Forward current := by
  intro ts _
  apply goes_still
  cases ts <;> rfl

theorem goes_advance (he : Ended ts) (hk : ahead ts .eof ≠ .eof) : Goes advance ts := by
  cases ts with
  | nil => exact absurd rfl he.ne_nil
  | cons t us =>
    cases us with
    | nil => exact absurd rfl (he.tail hk).ne_nil
    | cons u us => exact Passes.single hk

theorem passes_dropNewlines (ts : List Token) : Passes ts (dropNewlines ts) := by
  induction ts using dropNewlines.induct with
  | case1 t u ts hk ih =>
    rw [dropNewlines, if_pos hk]
    exact (Passes.single (by simp [hk])).trans ih
  | case2 t u ts hk =>
    rw [dropNewlines, if_neg hk]
    exact .refl _
  | case3 ts hts =>
    rw [dropNewlines]
    · exact .refl _
    · exact hts

theorem forward_skipNewlines : Forward skipNewlines := by
  intro ts _
  have hend : endState skipNewlines ts = dropNewlines ts := by cases ts <;> rfl
  unfold Goes
  rw [hend]
  exact passes_dropNewlines ts

theorem goes_current {g : Token → Parser β} (he : Ended ts)
    (h : ∀ t, ahead ts .eof = t.kind → Goes (g t) ts) :
    Goes (current >>= g) ts := by
  refine goes_bind he (forward_current ts he) fun t us _ hc => ?_
  obtain ⟨rfl, tl, rfl⟩ := current_eq_ok hc
  exact h t rfl

theorem goes_currentKind {g : Kind → Parser β} (he : Ended ts) (h : Goes (g (ahead ts .eof)) ts) :
    Goes (currentKind >>= g) ts := by
  have hkind : currentKind >>= g = current >>= fun t => g t.kind := by simp [currentKind]
  rw [hkind]
  refine goes_current he fun t ht => ?_
  rwa [← ht]

/-- Passing a token that has been seen to be no end mark. -/
theorem goes_pass {g : Parser β} (he : Ended ts) (hk : ahead ts .eof ≠ .eof) (h : Forward g) :
    Goes (advance >>= fun _ => g) ts :=
  goes_bind he (goes_advance he hk) fun _ us hu _ => h us hu

theorem forward_reject (cause : SourceFault) : Forward (reject cause : Parser α) :=
  forward_bind forward_current fun _ => forward_throw _

theorem forward_expect (hw : wanted ≠ .eof) : Forward (expect wanted) := by
  intro ts he
  refine goes_current he fun t ht => ?_
  split
  · next hk => exact goes_advance he (by rwa [ht, hk])
  · exact forward_reject _ ts he

theorem forward_accept (hw : wanted ≠ .eof) : Forward (accept wanted) := by
  intro ts he
  apply goes_currentKind he
  split
  · next hk =>
    rw [discard_bind]
    exact goes_pass he (by rwa [hk]) (forward_pure _)
  · exact forward_pure _ ts he

/-- Going on in one way behind a token of some kind, and in another way without it. -/
theorem forward_either {g h : Parser β} (hw : wanted ≠ .eof) (hg : Forward g) (hh : Forward h) :
    Forward (accept wanted >>= fun b => if b = true then g else h) := by
  refine forward_bind (forward_accept hw) fun b => ?_
  cases b with
  | true => exact hg
  | false => exact hh

end Steps

section Lists

theorem forward_itemsUntil (hp : Forward p) (n : Nat) : Forward (itemsUntil close p n) := by
  induction n with
  | zero =>
    intro ts he
    apply goes_currentKind he
    split
    · exact forward_pure _ ts he
    · exact forward_throw _ ts he
  | succ n ih =>
    intro ts he
    apply goes_currentKind he
    split
    · exact forward_pure _ ts he
    · exact forward_bind hp (fun _ => forward_bind ih fun _ => forward_pure _) ts he

theorem forward_closedBy (hc : close ≠ .eof) (hp : Forward p) : Forward (closedBy close p) := by
  refine forward_bind forward_get fun _ => forward_bind (forward_itemsUntil hp _) fun xs => ?_
  rw [discard_bind]
  exact forward_bind (forward_expect hc) fun _ => forward_pure _

theorem forward_commaAfter (hp : Forward p) : Forward (commaAfter p) := by
  refine forward_bind hp fun _ => ?_
  rw [discard_bind]
  exact forward_bind (forward_accept (by decide)) fun _ => forward_pure _

theorem forward_name : Forward (do return (← expect .identifier).text) :=
  forward_bind (forward_expect (by decide)) fun _ => forward_pure _

theorem forward_parameters : Forward parameters :=
  forward_closedBy (by decide) (forward_commaAfter forward_name)

theorem forward_bracketItems (hc : close ≠ .eof) (hp : Forward p) :
    Forward (bracketItems close p) := by
  refine forward_bind forward_skipNewlines fun _ => forward_closedBy hc ?_
  refine forward_bind forward_skipNewlines fun _ => forward_bind (forward_commaAfter hp) fun _ => ?_
  exact forward_bind forward_skipNewlines fun _ => forward_pure _

theorem forward_optionalItems (hp : Forward p) : Forward (optionalItems p) :=
  forward_either (by decide) (forward_closedBy (by decide) (forward_commaAfter hp)) (forward_pure _)

end Lists

section Expressions

variable {E U : Parser Node}

theorem forward_operators {kinds : List Kind} (hk : .eof ∉ kinds) (hp : Forward U)
    (n : Nat) (left : Node) :
    Forward (operators kinds U n left) := by
  induction n generalizing left with
  | zero =>
    intro ts he
    apply goes_currentKind he
    split
    · exact forward_throw _ ts he
    · exact forward_pure _ ts he
  | succ n ih =>
    intro ts he
    refine goes_current he fun t ht => ?_
    split
    · exact forward_pure _ ts he
    · next hc =>
      have hne : ahead ts .eof ≠ .eof := by
        intro heof
        rw [ht] at heof
        simp [heof, hk] at hc
      rw [discard_bind]
      exact goes_pass he hne (forward_bind hp fun _ => ih _)

theorem forward_level {kinds : List Kind} (hk : .eof ∉ kinds) (hp : Forward U) :
    Forward (level kinds U) :=
  forward_bind hp fun _ => forward_bind forward_get fun _ => forward_operators hk hp _ _

theorem eof_not_mem_operatorsAt (m : Nat) : .eof ∉ operatorsAt m := by
  unfold operatorsAt
  split <;> decide

theorem forward_tierOf (hU : Forward U) (m : Nat) : Forward (tierOf U m) := by
  induction m with
  | zero => exact hU
  | succ m ih => exact forward_level (eof_not_mem_operatorsAt m) ih

theorem forward_ternaryOf (hE : Forward E) (hU : Forward U) : Forward (ternaryOf E U) := by
  unfold ternaryOf
  rw [disjunctionOf_eq_tierOf]
  refine forward_bind (forward_tierOf hU _) fun _ => forward_either (by decide) ?_ (forward_pure _)
  refine forward_bind hE fun _ => ?_
  rw [discard_bind]
  exact forward_bind (forward_expect (by decide)) fun _ => forward_bind hE fun _ => forward_pure _

theorem forward_assignmentOf (hE : Forward E) (hU : Forward U) : Forward (assignmentOf E U) := by
  refine forward_bind (forward_ternaryOf hE hU) fun target ts he => ?_
  apply goes_currentKind he
  split
  · exact forward_pure _ ts he
  · next hk =>
    split
    · rw [discard_bind]
      refine goes_pass he (by simp [Decidable.not_not.mp hk]) ?_
      exact forward_bind hE fun _ => forward_pure _
    · exact forward_reject _ ts he

theorem forward_enclosed (hE : Forward E) :
    Forward (E >>= fun e => expect .rparen >>= fun _ => pure e) :=
  forward_bind hE fun _ => forward_bind (forward_expect (by decide)) fun _ => forward_pure _

theorem forward_parenthesized (hE : Forward E) : Forward (parenthesized E) := by
  intro ts he
  simp only [parenthesized, discard_bind]
  apply goes_currentKind he
  split
  · refine forward_bind forward_parameters
      (fun ps => forward_either (by decide) ?_ (forward_enclosed hE)) ts he
    exact forward_bind hE fun _ => forward_pure _
  · exact forward_enclosed hE ts he

theorem forward_dictKey (hE : Forward E) : Forward (dictKey E) := by
  intro ts he
  refine goes_current he fun t ht => ?_
  split
  · next hk =>
    rw [discard_bind]
    exact goes_pass he (by simp [ht, hk]) (forward_pure _)
  · exact hE ts he

theorem forward_dictPair (hE : Forward E) : Forward (dictPair E) := by
  refine forward_bind (forward_dictKey hE) fun _ => ?_
  rw [discard_bind]
  exact forward_bind (forward_expect (by decide)) fun _ => forward_bind hE fun _ => forward_pure _

theorem forward_primaryOf (hE : Forward E) : Forward (primaryOf E) := by
  intro ts he
  refine goes_current he fun t ht => ?_
  -- The first token is passed before anything else is read, unless it is refused.
  have pass {g : Parser Node} {k : Kind} (hk : t.kind = k) (hne : k ≠ .eof) (hg : Forward g) :
      Goes (advance >>= fun _ => g) ts := goes_pass he (by rwa [ht, hk]) hg
  simp only [discard_bind]
  split
  · next hk => exact pass hk (by decide) (forward_pure _)
  · next hk => exact pass hk (by decide) (forward_pure _)
  · next hk => exact pass hk (by decide) (forward_pure _)
  · next hk => exact pass hk (by decide) (forward_pure _)
  · next hk => exact pass hk (by decide) (forward_pure _)
  · next hk => exact pass hk (by decide) (forward_pure _)
  · next hk => exact pass hk (by decide) (forward_parenthesized hE)
  · next hk =>
    exact pass hk (by decide) (forward_bind (forward_bracketItems (by decide) hE) fun _ =>
      forward_pure _)
  · next hk =>
    have hitems : Forward (bracketItems .rbrace (dictPair E)) :=
      forward_bracketItems (by decide) (forward_dictPair hE)
    exact pass hk (by decide) (forward_bind hitems fun _ => forward_pure _)
  · next hk => exact pass hk (by decide) (forward_bind hE fun _ => forward_pure _)
  · exact forward_reject _ ts he

theorem forward_access? (hE : Forward E) (e : Node) : Forward (access? E e) := by
  simp only [access?, discard_bind]
  apply forward_either (by decide)
  · exact forward_bind (forward_expect (by decide)) fun _ => forward_pure _
  apply forward_either (by decide)
  · exact forward_bind (forward_closedBy (by decide) (forward_commaAfter hE)) fun _ =>
      forward_pure _
  apply forward_either (by decide)
  · exact forward_bind hE fun _ => forward_bind (forward_expect (by decide)) fun _ => forward_pure _
  · exact forward_pure _

theorem forward_accesses (hE : Forward E) (n : Nat) (e : Node) : Forward (accesses E n e) := by
  induction n generalizing e with
  | zero =>
    refine forward_bind (forward_access? hE e) fun o => ?_
    cases o with
    | some _ => exact forward_throw _
    | none => exact forward_pure _
  | succ n ih =>
    refine forward_bind (forward_access? hE e) fun o => ?_
    cases o with
    | some e => exact ih e
    | none => exact forward_pure _

theorem forward_postfixOf (hE : Forward E) : Forward (postfixOf E) :=
  forward_bind (forward_primaryOf hE) fun e =>
    forward_bind forward_get fun _ => forward_accesses hE _ e

theorem forward_within (n : Nat) : Forward (expressionWithin n) ∧ Forward (unaryWithin n) := by
  induction n with
  | zero => exact ⟨forward_throw _, forward_throw _⟩
  | succ n ih =>
    obtain ⟨hE, hU⟩ := ih
    refine ⟨forward_assignmentOf hE hU, fun ts he => ?_⟩
    refine goes_current he fun t ht => ?_
    simp only [discard_bind]
    split
    · next hk =>
        exact goes_pass he (by intro h; simp [← ht, h] at hk)
          (forward_bind hU fun _ => forward_pure _)
    · split
      · next hk => exact goes_pass he (by simp [ht, hk]) (forward_bind hU fun _ => forward_pure _)
      · exact forward_postfixOf hE ts he

theorem forward_expression : Forward expression :=
  forward_bind forward_get fun us => (forward_within (depthFor us)).1

end Expressions

section Statements

variable {S : Parser Node}

theorem forward_lineOf (hS : Forward S) : Forward (lineOf S) :=
  forward_bind hS fun _ => forward_bind forward_skipNewlines fun _ => forward_pure _

theorem forward_blockOf (hS : Forward S) : Forward (blockOf S) := by
  apply forward_either (by decide)
  · exact forward_bind forward_skipNewlines fun _ =>
      forward_closedBy (by decide) (forward_lineOf hS)
  · exact forward_bind hS fun _ => forward_pure _

theorem forward_returnStatement : Forward returnStatement := by
  unfold returnStatement
  rw [discard_bind]
  refine forward_bind (forward_expect (by decide)) fun _ ts he => ?_
  apply goes_currentKind he
  split
  · exact forward_pure _ ts he
  · exact forward_bind forward_expression (fun _ => forward_pure _) ts he

theorem forward_branch : Forward branch := by
  intro ts he
  apply goes_currentKind he
  split
  · exact forward_bind forward_returnStatement (fun _ => forward_pure _) ts he
  · exact forward_bind forward_expression (fun _ => forward_pure _) ts he

theorem forward_arrowElse : Forward arrowElse := by
  refine forward_bind forward_skipNewlines fun _ => forward_either (by decide) ?_ (forward_pure _)
  exact forward_either (by decide) (forward_bind forward_branch fun _ => forward_pure _)
    (forward_pure _)

theorem forward_wordBlock {word : Kind} (hw : word ≠ .eof) (hS : Forward S) :
    Forward (wordBlock word S) := by
  refine forward_bind forward_skipNewlines fun _ => forward_either hw ?_ (forward_pure _)
  exact forward_bind (forward_blockOf hS) fun _ => forward_pure _

theorem forward_optionalName : Forward optionalName := by
  intro ts he
  refine goes_current he fun t ht => ?_
  split
  · next hk =>
    rw [discard_bind]
    exact goes_pass he (by simp [ht, hk]) (forward_pure _)
  · exact forward_pure _ ts he

theorem forward_catchOf (hS : Forward S) : Forward (catchOf S) := by
  refine forward_bind forward_skipNewlines fun _ => forward_either (by decide) ?_ (forward_pure _)
  exact forward_bind forward_optionalName fun _ =>
    forward_bind (forward_blockOf hS) fun _ => forward_pure _

theorem forward_ifOf (hS : Forward S) : Forward (ifOf S) := by
  unfold ifOf
  rw [discard_bind]
  refine forward_bind (forward_expect (by decide)) fun _ =>
    forward_bind forward_expression fun _ => ?_
  apply forward_either (by decide)
  · exact forward_bind forward_branch fun _ =>
      forward_bind forward_arrowElse fun _ => forward_pure _
  · refine forward_bind (forward_blockOf hS) fun _ => ?_
    exact forward_bind (forward_wordBlock (by decide) hS) fun _ => forward_pure _

theorem forward_whileOf (hS : Forward S) : Forward (whileOf S) := by
  unfold whileOf
  rw [discard_bind]
  refine forward_bind (forward_expect (by decide)) fun _ =>
    forward_bind forward_expression fun _ => ?_
  exact forward_bind (forward_blockOf hS) fun _ => forward_pure _

theorem forward_forOf (hS : Forward S) : Forward (forOf S) := by
  unfold forOf
  rw [discard_bind]
  refine forward_bind (forward_expect (by decide)) fun _ =>
    forward_bind (forward_expect (by decide)) fun _ => ?_
  exact forward_bind forward_expression fun _ =>
    forward_bind (forward_blockOf hS) fun _ => forward_pure _

theorem forward_functionOf (hS : Forward S) : Forward (functionOf S) := by
  rw [functionOf_eq]
  refine forward_bind (forward_accept (by decide)) fun _ => ?_
  rw [discard_bind]
  refine forward_bind (forward_expect (by decide)) fun _ =>
    forward_bind forward_optionalName fun _ => ?_
  refine forward_bind (forward_optionalItems forward_name) fun _ => forward_either (by decide) ?_ ?_
  · exact forward_bind forward_expression fun _ => forward_pure _
  · exact forward_bind (forward_blockOf hS) fun _ => forward_pure _

theorem forward_tryOf (hS : Forward S) : Forward (tryOf S) := by
  rw [tryOf_eq, discard_bind]
  refine forward_bind (forward_expect (by decide)) fun _ =>
    forward_bind (forward_blockOf hS) fun _ => ?_
  refine forward_bind (forward_catchOf hS) fun _ => ?_
  exact forward_bind (forward_wordBlock (by decide) hS) fun _ => forward_pure _

theorem forward_decoratorBody : Forward decoratorBody := by
  rw [decoratorBody_eq]
  refine forward_bind (forward_expect (by decide)) fun _ => ?_
  refine forward_bind (forward_optionalItems forward_expression) fun _ => ?_
  exact forward_bind forward_skipNewlines fun _ => forward_pure _

theorem forward_decorators (n : Nat) : Forward (decorators n) := by
  induction n with
  | zero => exact forward_pure _
  | succ n ih =>
    refine forward_either (by decide) ?_ (forward_pure _)
    exact forward_bind forward_decoratorBody fun _ => forward_bind ih fun _ => forward_pure _

theorem forward_decoratedOf (hS : Forward S) : Forward (decoratedOf S) := by
  refine forward_bind forward_get fun _ => forward_bind (forward_decorators _) fun ds ts he => ?_
  apply goes_currentKind he
  split
  · exact forward_bind (forward_functionOf hS) (fun _ => forward_pure _) ts he
  · split
    · exact forward_pure _ ts he
    · exact forward_pure _ ts he

theorem forward_formAt (hS : Forward S) (k : Kind) : Forward (formAt S k) := by
  unfold formAt
  split
  · exact forward_decoratedOf hS
  · exact forward_ifOf hS
  · exact forward_whileOf hS
  · exact forward_forOf hS
  · exact forward_functionOf hS
  · exact forward_returnStatement
  · exact forward_tryOf hS
  · refine forward_bind forward_expression fun _ ts he => ?_
    apply goes_currentKind he
    split
    · next hk =>
      rw [discard_bind]
      exact goes_pass he (by intro h; simp [h] at hk) (forward_pure _)
    · exact forward_pure _ ts he

theorem forward_statementWithin (n : Nat) : Forward (statementWithin n) := by
  induction n with
  | zero => exact forward_throw _
  | succ n ih =>
    rw [statementWithin_succ]
    refine forward_bind forward_skipNewlines fun _ ts he => ?_
    exact goes_currentKind he (forward_formAt ih _ ts he)

theorem forward_statement : Forward statement :=
  forward_bind forward_get fun us => forward_statementWithin (depthFor us)

end Statements

end FloScript.Parser
