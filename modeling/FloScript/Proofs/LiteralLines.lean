import FloScript.Proofs.ClauseEnds
import FloScript.Proofs.Nesting
import FloScript.Proofs.Refusal

/-! Newlines in list and dict literals. Which bracket opens a literal can be told from the tokens
before it: one that stands where an operand is expected does, and one behind an operand is an index.
So reading the tokens from left to right with the open brackets on a stack finds the places where
newlines may be inserted, and there they change nothing. -/
namespace FloScript.Parser

variable {j k : Kind} {t : Token} {us vs ws ns : List Token}

section Counting

mutual

/-- The number of lists and dicts written in an expression. -/
def literals : Node → Nat
  | .list ns => literalsOf ns + 1
  | .dict ps => literalsOfPairs ps + 1
  | .binary l _ r | .index l r => literals l + literals r
  | .unary _ n | .await n | .member n _ | .assignment _ n | .returning (some n) => literals n
  | .call f ns => literals f + literalsOf ns
  | .conditional c ns (some ms) => literals c + literalsOf ns + literalsOf ms
  | .function _ _ ns _ => literalsOf ns
  | _ => 0

def literalsOf : List Node → Nat
  | [] => 0
  | n :: ns => literals n + literalsOf ns

def literalsOfPairs : List (Node × Node) → Nat
  | [] => 0
  | (key, value) :: ps => literals key + literals value + literalsOfPairs ps

end

/-- The number of lists and dicts in what a phrase stands for. -/
def Shape.literals : (sh : Shape) → sh.Carrier → Nat
  | .node, n => Parser.literals n
  | .text, _ => 0
  | .pair, (key, value) => Parser.literals key + Parser.literals value
  | .list sh, xs => xs.foldr (fun x n => sh.literals x + n) 0

@[simp] theorem literals_node (n : Node) : Shape.literals .node n = Parser.literals n := rfl

@[simp] theorem literals_pair (key value : Node) :
    Shape.literals .pair (key, value) = Parser.literals key + Parser.literals value := rfl

@[simp] theorem literals_nodes (ns : List Node) :
    Shape.literals (.list .node) ns = literalsOf ns := by
  induction ns with
  | nil => rfl
  | cons n ns ih => simpa [Shape.literals, literalsOf] using ih

@[simp] theorem literals_pairs (ps : List (Node × Node)) :
    Shape.literals (.list .pair) ps = literalsOfPairs ps := by
  induction ps with
  | nil => rfl
  | cons p ps ih => simpa [Shape.literals, literalsOfPairs] using ih

@[simp] theorem literals_texts (xs : List String) : Shape.literals (.list .text) xs = 0 := by
  induction xs with
  | nil => rfl
  | cons x xs ih => exact (Nat.zero_add _).trans ih

end Counting

section Spots

/-- What an open bracket encloses: the items of a list or dict, the names of parameters, or
something else. -/
inductive Enclosure where
  | literal
  | names
  | other
  deriving DecidableEq

/-- A spot between two tokens of an expression: what encloses it, the innermost first, whether an
operand ends there, whether an opening bracket or a comma stands before it, and the number of
literals found up to it. -/
structure Spot where
  inside : List Enclosure
  ended : Bool
  fresh : Bool
  found : Nat

/-- Kinds of tokens that are operands alone. -/
def isOperand (k : Kind) : Bool :=
  [Kind.number, .string, .trueWord, .falseWord, .nullWord, .identifier].contains k

/-- Kinds behind which an operand or a name must follow. -/
def isJoint (k : Kind) : Bool :=
  [Kind.assign, .question, .colon, .arrow, .dot, .not, .awaitWord, .multiply, .divide, .modulo,
   .plus, .minus, .lessThan, .greaterThan, .lessEqual, .greaterEqual, .equal, .notEqual, .and,
   .or].contains k

theorem isJoint_of_mem {n : Nat} (h : k ∈ operatorsAt n) : isJoint k = true := by
  unfold operatorsAt at h
  split at h <;> revert h <;> cases k <;> decide

namespace Spot

/-- The spot before an expression. -/
def start : Spot := ⟨[], false, false, 0⟩

/-- The spot behind an operand that began here, with `n` literals in it. -/
def done (s : Spot) (n : Nat) : Spot := ⟨s.inside, true, false, s.found + n⟩

/-- The spot behind a token of kind `k` that a token of kind `j` follows. A parenthesis where an
operand is expected encloses names if a name or its closing parenthesis follows; behind these names
comes an arrow, or an expression and another closing parenthesis. -/
def pass (s : Spot) (k j : Kind) : Spot :=
  match k with
  | .lparen =>
    ⟨(if !s.ended && (j = .identifier || j = .rparen) then .names else .other) ::
      s.inside, false, true, s.found⟩
  | .lbracket =>
    if s.ended then ⟨.other :: s.inside, false, true, s.found⟩
      else ⟨.literal :: s.inside, false, true, s.found + 1⟩
  | .lbrace => ⟨.literal :: s.inside, false, true, s.found + 1⟩
  | .rparen =>
    if s.inside.head? = some .names then
      ⟨if j = .arrow then s.inside.tail else .other :: s.inside.tail, false, false, s.found⟩
    else ⟨s.inside.tail, true, false, s.found⟩
  | .rbracket | .rbrace => ⟨s.inside.tail, true, false, s.found⟩
  | .comma => ⟨s.inside, false, true, s.found⟩
  | .newline => ⟨s.inside, false, s.fresh, s.found⟩
  | k => ⟨s.inside, isOperand k, false, s.found⟩

/-- Newlines may be inserted in a literal, behind its opening bracket and its commas and before its
closing bracket. -/
def breaks (s : Spot) (j : Kind) : Bool :=
  s.inside.head? = some .literal && (s.fresh || j = .rbracket || j = .rbrace)

/-- An operand that begins with a token of the given kind can begin here, and is no access to an
operand before it. -/
def Begins (s : Spot) (j : Kind) : Prop := s.ended = false ∨ j.opensAccess = false

/-- The two spots stand between the same brackets, and no literal begins between them. -/
def Beside (s s' : Spot) : Prop := s'.inside = s.inside ∧ s'.found = s.found

variable {s s' : Spot}

@[simp] theorem done_done (s : Spot) (m n : Nat) : (s.done m).done n = s.done (m + n) := by
  simp [done, Nat.add_assoc]

theorem breaks_of_outside (h : s.inside.head? ≠ some .literal) (j : Kind) : s.breaks j = false := by
  simp [breaks, h]

theorem breaks_of_stale (h : s.fresh = false) (hl : j ≠ .rbracket) (hb : j ≠ .rbrace) :
    s.breaks j = false := by
  simp [breaks, h, hl, hb]

theorem breaks_of_joint (h : s.fresh = false) (hj : isJoint j = true) : s.breaks j = false :=
  breaks_of_stale h (by rintro rfl; cases hj) (by rintro rfl; cases hj)

theorem pass_joint (hk : isJoint k = true) : s.pass k j = ⟨s.inside, false, false, s.found⟩ := by
  cases k <;> first | rfl | cases hk

/-- Behind a parenthesis where an operand is expected, names or their end show that there are
parameters. -/
theorem pass_names (hs : s.ended = false) (hj : j = .rparen ∨ j = .identifier) :
    s.pass .lparen j = ⟨.names :: s.inside, false, true, s.found⟩ := by
  rcases hj with rfl | rfl <;> simp [pass, hs]

theorem pass_call (s : Spot) (n : Nat) (j : Kind) :
    (s.done n).pass .lparen j = ⟨.other :: s.inside, false, true, s.found + n⟩ := rfl

theorem pass_index (s : Spot) (n : Nat) (j : Kind) :
    (s.done n).pass .lbracket j = ⟨.other :: s.inside, false, true, s.found + n⟩ := rfl

theorem pass_list (hs : s.ended = false) :
    s.pass .lbracket j = ⟨.literal :: s.inside, false, true, s.found + 1⟩ := by
  simp [pass, hs]

theorem pass_parenthesis (hr : j ≠ .rparen) (hi : j ≠ .identifier) :
    s.pass .lparen j = ⟨.other :: s.inside, false, true, s.found⟩ := by
  simp [pass, hr, hi]

theorem Begins.ended_eq (h : s.Begins j) (hj : j.opensAccess = true) : s.ended = false := by
  rcases h with h | h
  · exact h
  · rw [hj] at h
    cases h

/-- Behind a closing bracket it matters only what encloses the spot before it. -/
theorem Beside.pass_eq (h : s.Beside s') (hk : k.isCloser = true) : s'.pass k j = s.pass k j := by
  obtain ⟨hinside, hfound⟩ := h
  cases k <;> simp_all [Kind.isCloser, pass]

end Spot

end Spots

section Insertion

variable {s s' : Spot}

/-- The second tokens are the first with newlines inserted where they may be, read from one spot to
another and followed by a token of the given kind. -/
inductive Rebroken : Spot → List Token → Kind → List Token → Spot → Prop where
  | nil {s : Spot} {k : Kind} : Rebroken s [] k [] s
  | keep {s s' : Spot} {t : Token} {us ws : List Token} {k : Kind} :
      Rebroken (s.pass t.kind (ahead us k)) us k ws s' → Rebroken s (t :: us) k (t :: ws) s'
  | insert {s s' : Spot} {n t : Token} {us ws : List Token} {k : Kind} :
      n.kind = .newline → s.breaks t.kind = true → Rebroken s (t :: us) k ws s' →
        Rebroken s (t :: us) k (n :: ws) s'

namespace Rebroken

theorem ne_nil (h : Rebroken s us k ws s') (hne : us ≠ []) : ws ≠ [] := by
  cases h <;> simp_all

/-- The newlines inserted before a token, the token, and the rest. -/
theorem split_cons (h : Rebroken s (t :: us) k ws s') : ∃ ms vs, ws = ms ++ t :: vs ∧ Newlines ms ∧
    (ms ≠ [] → s.breaks t.kind = true) ∧ Rebroken (s.pass t.kind (ahead us k)) us k vs s' := by
  generalize hl : t :: us = l at h
  induction h with
  | nil => cases hl
  | @keep s s' t' us' ws' k h _ =>
    cases hl
    exact ⟨[], ws', rfl, newlines_nil, fun hne => absurd rfl hne, h⟩
  | insert hn hb _ ih =>
    cases hl
    obtain ⟨ms, vs, rfl, hms, -, hrest⟩ := ih rfl
    exact ⟨_ :: ms, vs, rfl, List.forall_mem_cons.mpr ⟨hn, hms⟩, fun _ => hb, hrest⟩

/-- Where newlines may not be inserted, the next token is kept. -/
theorem kept (h : Rebroken s (t :: us) k ws s') (ht : t.kind = j) (hb : s.breaks j = false) :
    ∃ vs, ws = t :: vs ∧ Rebroken (s.pass j (ahead us k)) us k vs s' := by
  obtain ⟨ms, vs, rfl, -, hms, hrest⟩ := h.split_cons
  rw [ht] at hms hrest
  cases ms with
  | nil => exact ⟨vs, rfl, hrest⟩
  | cons m ms =>
    rw [hms (by simp)] at hb
    cases hb

/-- The first token is kept if no newline comes first. -/
theorem kept_of_front (h : Rebroken s (t :: us) k ws s') (ht : t.kind = j)
    (hf : ahead ws k ≠ .newline) :
    ∃ vs, ws = t :: vs ∧ Rebroken (s.pass j (ahead us k)) us k vs s' := by
  obtain ⟨ms, vs, rfl, hms, -, hrest⟩ := h.split_cons
  rw [ht] at hrest
  cases ms with
  | nil => exact ⟨vs, rfl, hrest⟩
  | cons m ms => exact absurd (hms m (by simp)) hf

/-- Behind an operand only a closing bracket can be moved to another line. -/
theorem kept_of_done {m : Nat} (h : Rebroken (s.done m) (t :: us) k ws s')
    (ht : t.kind = j) (hl : j ≠ .rbracket) (hb : j ≠ .rbrace) :
    ∃ vs, ws = t :: vs ∧ Rebroken ((s.done m).pass j (ahead us k)) us k vs s' :=
  h.kept ht (Spot.breaks_of_stale rfl hl hb)

theorem ahead_of_front (h : Rebroken s us k ws s') (hne : us ≠ [])
    (hf : ahead ws k ≠ .newline) (j : Kind) :
    ahead ws j = ahead us j := by
  cases us with
  | nil => exact absurd rfl hne
  | cons t us =>
    obtain ⟨vs, rfl, -⟩ := h.kept_of_front rfl hf
    rfl

/-- No newline comes first where none may be inserted. -/
theorem front_of_calm (h : Rebroken s us k ws s') (hu : ahead us k ≠ .newline)
    (hb : s.breaks (ahead us k) = false) :
    ahead ws k ≠ .newline := by
  cases us with
  | nil =>
    cases h
    exact hu
  | cons t us =>
    obtain ⟨vs, rfl, -⟩ := h.kept rfl hb
    exact hu

/-- No newline is inserted before an operand, except behind the opening bracket and the commas of a
literal. -/
theorem front_of_opens (h : Rebroken s us k ws s') (ho : (ahead us k).opensExpression = true)
    (hs : s.fresh = false ∨ s.inside.head? ≠ some .literal) : ahead ws k ≠ .newline := by
  have hne : ∀ j : Kind, j.opensExpression = false → ahead us k ≠ j := by
    rintro j hj rfl
    rw [hj] at ho
    cases ho
  refine h.front_of_calm (hne _ rfl) ?_
  rcases hs with hs | hs
  · exact Spot.breaks_of_stale hs (hne _ rfl) (hne _ rfl)
  · exact Spot.breaks_of_outside hs _

theorem ahead_cases (h : Rebroken s us k ws s') :
    ahead ws k = .newline ∨ ahead ws k = ahead us k := by
  cases h with
  | nil => exact .inr rfl
  | keep _ => exact .inr rfl
  | insert hn _ _ => exact .inl hn

theorem split_append (h : Rebroken s (us ++ vs) k ws s') : ∃ us' vs' mid, ws = us' ++ vs' ∧
    Rebroken s us (ahead vs k) us' mid ∧ Rebroken mid vs k vs' s' := by
  generalize hl : us ++ vs = l at h
  induction h generalizing us with
  | nil =>
    obtain ⟨rfl, rfl⟩ := List.append_eq_nil_iff.mp hl
    exact ⟨[], [], _, rfl, .nil, .nil⟩
  | @keep s s' t ls ws k h ih =>
    cases us with
    | nil =>
      cases hl
      exact ⟨[], t :: ws, s, rfl, .nil, .keep h⟩
    | cons u us =>
      rw [List.cons_append] at hl
      obtain ⟨rfl, rfl⟩ := List.cons.inj hl
      obtain ⟨us', vs', mid, rfl, hu, hv⟩ := ih rfl
      rw [ahead_append] at hu
      exact ⟨u :: us', vs', mid, rfl, .keep hu, hv⟩
  | @insert s s' n t ls ws k hn hb h ih =>
    cases us with
    | nil =>
      cases hl
      exact ⟨[], n :: ws, s, rfl, .nil, .insert hn hb h⟩
    | cons u us =>
      obtain ⟨us', vs', mid, rfl, hu, hv⟩ := ih hl
      cases hl
      exact ⟨n :: us', vs', mid, rfl, .insert hn hb hu, hv⟩

/-- Newlines become newlines, and behind them an operand is expected. -/
theorem newlines (h : Rebroken s ns k ws s') (hn : Newlines ns) : Newlines ws ∧ s.Beside s' ∧
    (ns ≠ [] → s'.ended = false) ∧ (ns = [] → ws = [] ∧ s' = s) := by
  induction h with
  | nil => exact ⟨newlines_nil, ⟨rfl, rfl⟩, fun hne => absurd rfl hne, fun _ => ⟨rfl, rfl⟩⟩
  | @keep s s' t ls ws k h ih =>
    obtain ⟨ht, hls⟩ := List.forall_mem_cons.mp hn
    obtain ⟨hws, hbeside, hended, hnone⟩ := ih hls
    rw [ht] at hbeside hnone
    refine ⟨List.forall_mem_cons.mpr ⟨ht, hws⟩, hbeside, fun _ => ?_, by simp⟩
    by_cases hnil : ls = []
    · rw [(hnone hnil).2]
      rfl
    · exact hended hnil
  | insert hm _ _ ih =>
    obtain ⟨hws, hbeside, hended, -⟩ := ih hn
    exact ⟨List.forall_mem_cons.mpr ⟨hm, hws⟩, hbeside, hended, by simp⟩

/-- All newlines before a phrase, those that were there and those inserted, stand before its first
token. -/
theorem split_newlines (h : Rebroken s (ns ++ us) k ws s') (hn : Newlines ns) (hne : us ≠ [])
    (hu : ahead us k ≠ .newline) :
    ∃ ms vs mid, ws = ms ++ vs ∧ Newlines ms ∧ ahead vs k ≠ .newline ∧
      Rebroken mid us k vs s' ∧ s.Beside mid ∧ (ns ≠ [] → mid.ended = false) ∧
      (ns = [] → mid = s ∧ (ms ≠ [] → s.breaks (ahead us k) = true)) := by
  obtain ⟨ns', vs', mid, rfl, hns, hrest⟩ := h.split_append
  obtain ⟨hns', hbeside, hended, hnone⟩ := hns.newlines hn
  cases us with
  | nil => exact absurd rfl hne
  | cons t us =>
    obtain ⟨ms, vs, rfl, hms, hbreaks, hvs⟩ := hrest.split_cons
    refine ⟨ns' ++ ms, t :: vs, mid, by simp, hns'.append hms, hu, .keep hvs, hbeside, hended, ?_⟩
    intro hnil
    obtain ⟨rfl, rfl⟩ := hnone hnil
    exact ⟨rfl, hbreaks⟩

end Rebroken

end Insertion

section Phrases

variable {sh : Shape} {c : Phrase sh} {a : sh.Carrier} {n : Node} {s s' : Spot} {o : Token}

namespace Phrase

/-- Items stand in a literal if there may be newlines between them, and elsewhere if not. -/
def Suits : {sh : Shape} → Phrase sh → Spot → Prop
  | _, .items close lines _, s =>
    close.isCloser = true ∧ (s.inside.head? = some .literal ↔ lines = true)
  | _, _, _ => True

/-- The spot behind a phrase with `n` literals that began at the given spot, before a token of the
given kind. -/
def leave : {sh : Shape} → Phrase sh → Nat → Spot → Kind → Spot
  | _, .items close _ _, n, s, k => { s with found := s.found + n }.pass close k
  | _, _, n, s, _ => s.done n

/-- Newlines can be inserted into the tokens of a phrase at every spot where it can begin. -/
def Stable {sh : Shape} (c : Phrase sh) (a : sh.Carrier) (us : List Token) (k : Kind) : Prop :=
  ∀ ⦃s s' : Spot⦄ ⦃ws : List Token⦄, Rebroken s us k ws s' → ahead ws k ≠ .newline → c.Suits s →
    s.Begins (ahead us k) →
    Spells c a ws k ∧ s' = c.leave (sh.literals a) s k

theorem suits_node (c : Phrase .node) (s : Spot) : c.Suits s := by
  cases c <;> trivial

theorem leave_node (c : Phrase .node) (m : Nat) (s : Spot) (k : Kind) :
    c.leave m s k = s.done m := by
  cases c <;> rfl

theorem opensExpression_of_opens {c : Phrase .node} (h : c.Opens k) : k.opensExpression = true := by
  cases c <;> first | exact h | exact opensExpression_of_opensPrimary h

/-- A phrase at the front of some tokens keeps its first token and leaves the rest. -/
theorem Stable.front (h : c.Stable a us j) (hs : Spells c a us j)
    (hr : Rebroken s (us ++ vs) k ws s') (hj : ahead vs k = j) (hf : ahead ws k ≠ .newline)
    (hc : c.Suits s) (hb : s.Begins (ahead (us ++ vs) k)) :
    ∃ us' vs', ws = us' ++ vs' ∧ Spells c a us' j ∧ ahead us' j = ahead us j ∧
      Rebroken (c.leave (sh.literals a) s j) vs k vs' s' := by
  subst hj
  obtain ⟨us', vs', mid, rfl, hu, hv⟩ := hr.split_append
  have hne : us' ≠ [] := hu.ne_nil hs.ne_nil
  have hfront : ahead us' (ahead vs k) ≠ .newline := by rwa [ahead_filled hne] at hf
  rw [ahead_append] at hb
  obtain ⟨hs', rfl⟩ := h hu hfront hc hb
  exact ⟨us', vs', rfl, hs', hu.ahead_of_front hs.ne_nil hfront _, hv⟩

/-- An expression at the front of some tokens. -/
theorem Stable.left {c : Phrase .node} (h : c.Stable n us j) (hs : Spells c n us j)
    (hr : Rebroken s (us ++ vs) k ws s') (hj : ahead vs k = j) (hf : ahead ws k ≠ .newline)
    (hb : s.Begins (ahead (us ++ vs) k)) :
    ∃ us' vs', ws = us' ++ vs' ∧ Spells c n us' j ∧ ahead us' j = ahead us j ∧
      Rebroken (s.done (literals n)) vs k vs' s' := by
  obtain ⟨us', vs', rfl, hs', hahead, hrest⟩ := h.front hs hr hj hf (suits_node c s) hb
  rw [leave_node] at hrest
  exact ⟨us', vs', rfl, hs', hahead, hrest⟩

/-- A phrase that is another one with no tokens of its own. -/
theorem Stable.lift {c c' : Phrase .node} (h : c.Stable n us k)
    (hc : ∀ ws, Spells c n ws k → Spells c' n ws k) :
    c'.Stable n us k := by
  intro s s' ws hr hf _ hb
  obtain ⟨hs, rfl⟩ := h hr hf (suits_node c s) hb
  exact ⟨hc ws hs, by rw [leave_node, leave_node]⟩

/-- Behind a joint there is an expression. -/
theorem Stable.behind {c : Phrase .node} (h : c.Stable n us k) (hs : Spells c n us k)
    (hr : Rebroken s (o :: us) k ws s') (ho : isJoint o.kind = true)
    (hf : s.fresh = false ∨ ahead ws k ≠ .newline) :
    ∃ vs, ws = o :: vs ∧ Spells c n vs k ∧ s' = s.done (literals n) := by
  have hkept : ∃ vs, ws = o :: vs ∧ Rebroken (s.pass o.kind (ahead us k)) us k vs s' := by
    rcases hf with hf | hf
    · exact hr.kept rfl (Spot.breaks_of_joint hf ho)
    · exact hr.kept_of_front rfl hf
  obtain ⟨vs, rfl, hvs⟩ := hkept
  rw [Spot.pass_joint ho] at hvs
  have hfront := hvs.front_of_opens (opensExpression_of_opens hs.opens) (.inl rfl)
  obtain ⟨hs', rfl⟩ := h hvs hfront (suits_node c _) (.inl rfl)
  exact ⟨vs, rfl, hs', leave_node c _ _ _⟩

/-- An expression and the bracket behind it, in brackets that are no literal. -/
theorem Stable.enclosed {q : Token} (h : Phrase.expression.Stable n us j)
    (hs : Spells .expression n us j) (hr : Rebroken s (us ++ [q]) k ws s') (hq : q.kind = j)
    (hended : s.ended = false) (hout : s.inside.head? ≠ some .literal) :
    ∃ vs, ws = vs ++ [q] ∧ Spells .expression n vs j ∧
      ahead vs j = ahead us j ∧ s' = (s.done (literals n)).pass j k := by
  have hopens : (ahead (us ++ [q]) k).opensExpression = true := by
    rw [ahead_append, ahead_cons, hq]
    exact hs.opens
  obtain ⟨vs, rest, rfl, hs', hahead, hrest⟩ :=
    h.left hs hr (by simp [hq]) (hr.front_of_opens hopens (.inr hout)) (.inl hended)
  obtain ⟨rest, rfl, hnil⟩ := hrest.kept hq (Spot.breaks_of_outside (s := s.done _) hout _)
  cases hnil
  exact ⟨vs, rfl, hs', hahead, rfl⟩

end Phrase

section Items

open Phrase (Listed Stable)

variable {item : Phrase sh} {close : Kind} {lines : Bool} {x : sh.Carrier}
  {xs : List sh.Carrier} {cs : List Token}

theorem Phrase.Listed.suits (h : item.Listed) (s : Spot) : item.Suits s := by
  cases h <;> trivial

theorem Phrase.Listed.leave_eq (h : item.Listed) (m : Nat) (s : Spot) (k : Kind) :
    item.leave m s k = s.done m := by
  cases h <;> rfl

/-- Phrases that go on as long as accesses follow. -/
def Phrase.Closed : {sh : Shape} → Phrase sh → Bool
  | _, .spine | _, .primary | _, .name | _, .items _ _ _ => false
  | _, _ => true

theorem Spells.not_opensAccess (h : Spells c a us k) (hc : c.Closed = true) :
    k.opensAccess = false := by
  induction h <;> simp_all [Phrase.Closed]

theorem ahead_items_ne (hi : item.Listed) (hclose : close.isCloser = true)
    (h : Spells (.items close lines item) xs us k) : ahead us k ≠ .newline := by
  intro hn
  have hopens := h.opens
  rw [hn] at hopens
  rcases hopens with rfl | hopens
  · cases hclose
  · cases hi <;> cases hopens

/-- An item right behind another one does not look like an access to it. -/
theorem begins_next (hi : item.Listed) (hclose : close.isCloser = true)
    (hx : Spells item x us (ahead vs k)) (h : Spells (.items close lines item) xs vs k) :
    (ahead vs k).opensAccess = false := by
  cases hi with
  | expression => exact hx.not_opensAccess rfl
  | pair => exact hx.not_opensAccess rfl
  | name =>
    rcases h.opens with hopens | hopens <;> rw [hopens]
    · revert hclose
      cases close <;> decide
    · rfl

/-- Behind items it matters what encloses them and how many literals were found. -/
theorem leave_items {m n : Nat} (hclose : close.isCloser = true) (hinside : s'.inside = s.inside)
    (hfound : s'.found + m = s.found + n) :
    Phrase.leave (.items close lines item) m s' k =
      Phrase.leave (.items close lines item) n s k := by
  have hbeside : Spot.Beside { s with found := s.found + n } { s' with found := s'.found + m } :=
    ⟨hinside, hfound⟩
  exact hbeside.pass_eq hclose

/-- Newlines before more items. -/
theorem stable_rest (hr : Rebroken s (ns ++ vs) k ws s')
    (ih : Stable (.items close lines item) xs vs k) (hxs : Spells (.items close lines item) xs vs k)
    (hi : item.Listed) (hclose : close.isCloser = true)
    (hlines : s.inside.head? = some .literal ↔ lines = true) (hn : Newlines ns)
    (hf : lines = false → ns = []) (hb : ns = [] → s.Begins (ahead vs k)) :
    ∃ ms vs', ws = ms ++ vs' ∧ Newlines ms ∧ (lines = false → ms = []) ∧
      ahead vs' k ≠ .newline ∧ Spells (.items close lines item) xs vs' k ∧
      s' = Phrase.leave (.items close lines item) (Shape.literals (.list sh) xs) s k := by
  obtain ⟨ms, vs', mid, rfl, hms, hfront, hvs, hbeside, hended, hnone⟩ :=
    hr.split_newlines hn hxs.ne_nil (ahead_items_ne hi hclose hxs)
  have hmid : mid.Begins (ahead vs k) := by
    by_cases hnil : ns = []
    · rw [(hnone hnil).1]
      exact hb hnil
    · exact .inl (hended hnil)
  have hinserted : lines = false → ms = [] := by
    intro hl
    have hcalm := Spot.breaks_of_outside (s := s) (by simp [hlines, hl]) (ahead vs k)
    by_cases hnil : ms = []
    · exact hnil
    · rw [(hnone (hf hl)).2 hnil] at hcalm
      cases hcalm
  rw [← hbeside.1] at hlines
  obtain ⟨hs, rfl⟩ := ih hvs hfront ⟨hclose, hlines⟩ hmid
  exact ⟨ms, vs', rfl, hms, hinserted, hfront, hs, leave_items hclose hbeside.1 (by rw [hbeside.2])⟩

/-- Newlines can be inserted into an item and the items behind it. -/
theorem stable_cons (hi : item.Listed) (hc : ahead (us ++ (cs ++ (ns ++ vs))) k ≠ close)
    (hx : Spells item x us (ahead (cs ++ (ns ++ vs)) k))
    (hs : Separator cs (ahead (ns ++ vs) k)) (hn : Newlines ns) (hf : lines = false → ns = [])
    (hxs : Spells (.items close lines item) xs vs k)
    (ihx : item.Stable x us (ahead (cs ++ (ns ++ vs)) k))
    (ihxs : Stable (.items close lines item) xs vs k) :
    Stable (.items close lines item) (x :: xs) (us ++ (cs ++ (ns ++ vs))) k := by
  rintro s s' ws hr hfront ⟨hclose, hlines⟩ hb
  obtain ⟨us', rest, rfl, hx', hahead, hrest⟩ := ihx.front hx hr rfl hfront (hi.suits s) hb
  have hne : us' ≠ [] := hx'.ne_nil
  have hfirst : ∀ r, ahead (us' ++ r) k = ahead (us ++ (cs ++ (ns ++ vs))) k := by
    intro r
    rw [ahead_filled hne, hahead, ← ahead_append]
  have hcount : s.found + sh.literals x + Shape.literals (.list sh) xs =
      s.found + Shape.literals (.list sh) (x :: xs) := by
    simp [Shape.literals, Nat.add_assoc]
  rw [hi.leave_eq] at hrest
  cases hs with
  | @comma c _ hcomma =>
    rw [List.singleton_append] at hrest
    obtain ⟨rest, rfl, hrest'⟩ := hrest.kept_of_done hcomma (by decide) (by decide)
    obtain ⟨ms, vs', rfl, hms, hnone, hfront', hxs', rfl⟩ :=
      stable_rest hrest' ihxs hxs hi hclose hlines hn hf fun _ => .inl rfl
    have hspelled : Spells (.items close lines item) (x :: xs) (us' ++ ([c] ++ (ms ++ vs'))) k :=
      .cons hi (by rwa [hfirst]) (fun _ => hfront) hx' (.comma hcomma) hms
        hnone (fun _ => hfront') hxs'
    exact ⟨hspelled, leave_items hclose rfl hcount⟩
  | nothing hcomma =>
    have hnext : ns = [] → (s.done (sh.literals x)).Begins (ahead vs k) := by
      rintro rfl
      exact .inr (begins_next hi hclose hx hxs)
    have hkind := hrest.ahead_cases
    rw [List.nil_append] at hrest
    obtain ⟨ms, vs', rfl, hms, hnone, hfront', hxs', rfl⟩ :=
      stable_rest hrest ihxs hxs hi hclose hlines hn hf hnext
    -- a newline may have come between the item and what followed it
    have hx'' : Spells item x us' (ahead (ms ++ vs') k) := by
      rcases hkind with hkind | hkind <;> rw [hkind]
      · exact hx'.before rfl
      · exact hx'
    have hsep : Separator [] (ahead (ms ++ vs') k) := by
      refine .nothing ?_
      rcases hkind with hkind | hkind <;> rw [hkind]
      · decide
      · exact hcomma
    exact ⟨.cons hi (by rwa [hfirst]) (fun _ => hfront) hx'' hsep hms hnone (fun _ => hfront') hxs',
      leave_items hclose rfl hcount⟩

end Items

theorem pass_leaf {t : Token} (h : leaf? t = some n) :
    s.pass t.kind k = s.done 0 ∧ literals n = 0 := by
  unfold leaf? at h
  split at h <;> simp_all [Spot.pass, Spot.done, isOperand] <;> subst h <;> rfl

theorem literals_lambda (ps : List String) (e : Node) :
    literals (Parser.lambda ps e) = literals e := by
  simp [Parser.lambda, literals, literalsOf]

/-- Parameters in parentheses, where an operand is expected. -/
theorem stable_parameters {ps : List String} (ih : Phrase.parameters.Stable ps us j)
    (hps : Spells .parameters ps us j) (ho : o.kind = .lparen)
    (hr : Rebroken s (o :: (us ++ vs)) k ws s') (hj : ahead vs k = j) (hf : ahead ws k ≠ .newline)
    (hb : s.Begins (ahead (o :: (us ++ vs)) k)) :
    ∃ us' vs', ws = o :: (us' ++ vs') ∧ Spells .parameters ps us' j ∧
      Rebroken ⟨if j = .arrow then s.inside else .other :: s.inside, false, false, s.found⟩
        vs k vs' s' := by
  obtain ⟨rest, rfl, hrest⟩ := hr.kept_of_front ho hf
  have hfirst : ahead (us ++ vs) k ≠ .newline := by
    rw [ahead_append, hj]
    exact ahead_items_ne .name rfl hps
  rw [ahead_cons, ho] at hb
  rw [ahead_append, hj, Spot.pass_names (hb.ended_eq rfl) hps.opens] at hrest
  have hfront := hrest.front_of_calm hfirst (Spot.breaks_of_outside (by simp) _)
  obtain ⟨us', vs', rfl, hps', -, hvs⟩ := ih.front hps hrest hj hfront ⟨rfl, by simp⟩ (.inl rfl)
  rw [literals_texts] at hvs
  exact ⟨us', vs', rfl, hps', hvs⟩

/-- Every phrase bears the newlines, by induction on how it is spelled. The spots before and behind
its parts are known from the parts before them, so it is known for each bracket what it encloses. -/
theorem Spells.stable (h : Spells c a us k) : c.Stable a us k := by
  induction h with
  | @assignment name v us vs e k ht he hv iht ihv =>
    intro s s' ws hr hf _ hb
    obtain ⟨us', rest, rfl, ht', -, hrest⟩ := iht.left ht hr (by simp [he]) hf hb
    obtain ⟨vs', rfl, hv', rfl⟩ := ihv.behind hv hrest (by rw [he]; rfl) (.inl rfl)
    exact ⟨.assignment ht' he hv', by simp [Phrase.leave, literals]⟩
  | value _ hk ih => exact ih.lift fun _ h => .value h hk
  | @choice c a b us vs ws q t k hc hq ha ht hb ihc iha ihb =>
    intro s s' ws' hr hf _ hbegins
    obtain ⟨us', rest, rfl, hc', -, hrest⟩ := ihc.left hc hr (by simp [hq]) hf hbegins
    obtain ⟨rest, rfl, hthen⟩ := hrest.kept_of_done hq (by decide) (by decide)
    rw [Spot.pass_joint rfl] at hthen
    have hopens : (ahead (vs ++ t :: ws) k).opensExpression = true := by
      rw [ahead_append, ahead_cons, ht]
      exact ha.opens
    obtain ⟨vs', rest, rfl, ha', -, helse⟩ :=
      iha.left ha hthen (by simp [ht]) (hthen.front_of_opens hopens (.inl rfl)) (.inl rfl)
    obtain ⟨ws', rfl, hb', rfl⟩ := ihb.behind hb helse (by rw [ht]; rfl) (.inl rfl)
    exact ⟨.choice hc' hq ha' ht hb',
      by simp [Phrase.leave, Spot.done, literals, literalsOf, Nat.add_assoc]⟩
  | operation _ hk ih => exact ih.lift fun _ h => .operation h hk
  | operand _ ih => exact ih.lift fun _ h => .operand h
  | @binary n l r us vs o k hl ho hr ihl ihr =>
    intro s s' ws hws hf _ hb
    obtain ⟨us', rest, rfl, hl', -, hrest⟩ := ihl.left hl hws rfl hf hb
    obtain ⟨vs', rfl, hr', rfl⟩ := ihr.behind hr hrest (isJoint_of_mem ho) (.inl rfl)
    exact ⟨.binary hl' ho hr', by simp [Phrase.leave, literals]⟩
  | level _ hk ih => exact ih.lift fun _ h => .level h hk
  | @unary o x us k ho hx ih =>
    intro s s' ws hr hf _ _
    have hjoint : isJoint o.kind = true := by rcases ho with ho | ho <;> rw [ho] <;> rfl
    obtain ⟨vs, rfl, hx', rfl⟩ := ih.behind hx hr hjoint (.inr hf)
    exact ⟨.unary ho hx', rfl⟩
  | @await o x us k ho hx ih =>
    intro s s' ws hr hf _ _
    obtain ⟨vs, rfl, hx', rfl⟩ := ih.behind hx hr (by rw [ho]; rfl) (.inr hf)
    exact ⟨.await ho hx', rfl⟩
  | accessed _ hk ih => exact ih.lift fun _ h => .accessed h hk
  | base _ ih => exact ih.lift fun _ h => .base h
  | @member e us d x k he hd hx ih =>
    intro s s' ws hr hf _ hb
    obtain ⟨us', rest, rfl, he', -, hrest⟩ := ih.left he hr (by simp [hd]) hf hb
    obtain ⟨rest, rfl, hname⟩ := hrest.kept_of_done hd (by decide) (by decide)
    obtain ⟨rest, rfl, hnil⟩ := hname.kept hx (Spot.breaks_of_stale rfl (by decide) (by decide))
    cases hnil
    exact ⟨.member he' hd hx, rfl⟩
  | @call e xs us vs o k he ho hxs ihe ihxs =>
    intro s s' ws hr hf _ hb
    obtain ⟨us', rest, rfl, he', -, hrest⟩ := ihe.left he hr (by simp [ho]) hf hb
    obtain ⟨vs', rfl, hvs⟩ := hrest.kept_of_done ho (by decide) (by decide)
    rw [Spot.pass_call] at hvs
    have hfront :=
      hvs.front_of_calm (ahead_items_ne .expression rfl hxs) (Spot.breaks_of_outside (by simp) _)
    obtain ⟨hxs', rfl⟩ := ihxs hvs hfront ⟨rfl, by simp⟩ (.inl rfl)
    exact ⟨.call he' ho hxs', by simp [Phrase.leave, Spot.pass, Spot.done, literals, Nat.add_assoc]⟩
  | @index e i us vs o q k he ho hi hq ihe ihi =>
    intro s s' ws hr hf _ hb
    obtain ⟨us', rest, rfl, he', -, hrest⟩ := ihe.left he hr (by simp [ho]) hf hb
    obtain ⟨rest, rfl, hindex⟩ := hrest.kept_of_done ho (by decide) (by decide)
    rw [Spot.pass_index] at hindex
    obtain ⟨vs', rfl, hi', -, rfl⟩ := ihi.enclosed hi hindex hq rfl (by simp)
    exact ⟨.index he' ho hi' hq,
      by simp [Phrase.leave, Spot.pass, Spot.done, literals, Nat.add_assoc]⟩
  | @leaf t n k h =>
    intro s s' ws hr hf _ _
    obtain ⟨vs, rfl, hnil⟩ := hr.kept_of_front rfl hf
    cases hnil
    obtain ⟨hpass, hnone⟩ := pass_leaf (s := s) (k := ahead [] k) h
    exact ⟨.leaf h, by rw [hpass, Phrase.leave_node, literals_node, hnone]⟩
  | @parenthesized e us o q k ho he hi hq ih =>
    intro s s' ws hr hf _ _
    obtain ⟨rest, rfl, hrest⟩ := hr.kept_of_front ho hf
    rw [ahead_append, ahead_cons, hq, Spot.pass_parenthesis (ahead_ne_of_spells he rfl) hi] at hrest
    obtain ⟨vs, rfl, he', hahead, rfl⟩ := ih.enclosed he hrest hq rfl (by simp)
    exact ⟨.parenthesized ho he' (by rwa [hahead]) hq, by simp [Phrase.leave, Spot.pass, Spot.done]⟩
  | @skipped ps e us vs o q k ho hps hv he hq ihps ihe =>
    intro s s' ws hr hf _ hb
    have hnext : ahead (vs ++ [q]) k = ahead vs .rparen := by rw [ahead_append, ahead_cons, hq]
    obtain ⟨us', rest, rfl, hps', hrest⟩ := stable_parameters ihps hps ho hr hnext hf hb
    rw [if_neg hv] at hrest
    obtain ⟨vs', rfl, he', hahead, rfl⟩ := ihe.enclosed he hrest hq rfl (by simp)
    rw [← hahead] at hps' hv
    exact ⟨.skipped ho hps' hv he' hq, by simp [Phrase.leave, Spot.pass, Spot.done]⟩
  | @lambda ps e us vs o q k ho hps hq he ihps ihe =>
    intro s s' ws hr hf _ hb
    obtain ⟨us', rest, rfl, hps', hrest⟩ := stable_parameters ihps hps ho hr hq hf hb
    rw [if_pos rfl] at hrest
    obtain ⟨vs', rfl, he', rfl⟩ := ihe.behind he hrest (by rw [hq]; rfl) (.inl rfl)
    exact ⟨.lambda ho hps' hq he', by simp [Phrase.leave, Spot.done, literals_lambda]⟩
  | @thunk e us q k hq he ih =>
    intro s s' ws hr hf _ _
    obtain ⟨vs, rfl, he', rfl⟩ := ih.behind he hr (by rw [hq]; rfl) (.inr hf)
    exact ⟨.thunk hq he', by simp [Phrase.leave, literals_lambda]⟩
  | @list xs ns us o k ho hn hu hxs ih =>
    intro s s' ws hr hf _ hb
    obtain ⟨rest, rfl, hrest⟩ := hr.kept_of_front ho hf
    rw [ahead_cons, ho] at hb
    rw [Spot.pass_list (hb.ended_eq rfl)] at hrest
    obtain ⟨ms, vs, rfl, hms, -, hfront, hxs', rfl⟩ :=
      stable_rest hrest ih hxs .expression rfl (by simp) hn (by simp) fun _ => .inl rfl
    exact ⟨.list ho hms hfront hxs', by simp [Phrase.leave, Spot.pass, Spot.done, literals]; omega⟩
  | @dict ps ns us o k ho hn hu hps ih =>
    intro s s' ws hr hf _ _
    obtain ⟨rest, rfl, hrest⟩ := hr.kept_of_front ho hf
    obtain ⟨ms, vs, rfl, hms, -, hfront, hps', rfl⟩ :=
      stable_rest hrest ih hps .pair rfl (by simp [Spot.pass]) hn (by simp) fun _ => .inl rfl
    exact ⟨.dict ho hms hfront hps', by simp [Phrase.leave, Spot.pass, Spot.done, literals]; omega⟩
  | @name x k hx =>
    intro s s' ws hr hf _ _
    obtain ⟨vs, rfl, hnil⟩ := hr.kept_of_front hx hf
    cases hnil
    exact ⟨.name hx, rfl⟩
  | @named x q v us k hx hq hv ih =>
    intro s s' ws hr hf _ _
    obtain ⟨rest, rfl, hrest⟩ := hr.kept_of_front hx hf
    obtain ⟨vs, rfl, hv', rfl⟩ := ih.behind hv hrest (by rw [hq]; rfl) (.inl rfl)
    exact ⟨.named hx hq hv', by simp [Phrase.leave, Spot.pass, Spot.done, literals]⟩
  | @keyed key v us vs q k hk hi hq hv ihk ihv =>
    intro s s' ws hr hf _ hb
    obtain ⟨us', rest, rfl, hk', hahead, hrest⟩ := ihk.left hk hr (by simp [hq]) hf hb
    obtain ⟨vs', rfl, hv', rfl⟩ := ihv.behind hv hrest (by rw [hq]; rfl) (.inl rfl)
    exact ⟨.keyed hk' (by rwa [hahead]) hq hv', by simp [Phrase.leave]⟩
  | @nil sh item close lines q k hq =>
    intro s s' ws hr hf _ _
    obtain ⟨vs, rfl, hnil⟩ := hr.kept_of_front hq hf
    cases hnil
    exact ⟨.nil hq, rfl⟩
  | cons hi hc _ hx hs hn hf _ hxs ihx ihxs => exact stable_cons hi hc hx hs hn hf hxs ihx ihxs

end Phrases

section Literals

variable {n : Node} {s : Spot}

/-- Newlines in the lists and dicts of an expression change nothing. Of these lists and dicts none
is overlooked: the brackets that count as theirs are as many as there are lists and dicts in the
tree, and all brackets are closed. -/
theorem whole_across_lines (h : Whole us n) (hr : Rebroken .start us .eof ws s) :
    Whole ws n ∧ s.inside = [] ∧ s.found = literals n := by
  have hs := whole_iff_spells.mp h
  have hfront := hr.front_of_opens hs.opens (.inl rfl)
  obtain ⟨hws, rfl⟩ := hs.stable hr hfront trivial (.inl rfl)
  exact ⟨whole_iff_spells.mpr hws, rfl, by simp [Phrase.leave, Spot.done, Spot.start]⟩

/-- A list of a call and a number; the argument of the call is a function of two parameters that
gives a dict. -/
def nestedTokens : List Token :=
  [Kind.lbracket, .identifier, .lparen, .lparen, .identifier, .comma, .identifier, .rparen, .arrow,
   .lbrace, .identifier, .colon, .number, .rbrace, .rparen, .comma, .number, .rbracket].map sample

/-- The same tokens on many lines. -/
def spreadTokens : List Token :=
  [Kind.lbracket, .newline, .newline, .identifier, .lparen, .lparen, .identifier, .comma,
   .identifier, .rparen, .arrow, .lbrace, .newline, .identifier, .colon, .number, .newline, .rbrace,
   .rparen, .comma, .newline, .number, .newline, .rbracket].map sample

def nestedNode : Node :=
  let x := (sample .identifier).text
  let maker := Parser.lambda [x, x] (.dict [(.string (.text x), .number .null)])
  .list [.call (.identifier x) [maker], .number .null]

theorem rebroken_nested : Rebroken .start nestedTokens .eof spreadTokens ⟨[], true, false, 2⟩ := by
  repeat first | exact .nil | refine .insert rfl rfl ?_ | refine .keep ?_

theorem whole_across_lines_nested :
    Whole nestedTokens nestedNode ∧
      Rebroken .start nestedTokens .eof spreadTokens ⟨[], true, false, 2⟩ ∧
      Whole spreadTokens nestedNode ∧ literals nestedNode = 2 := by
  have hwhole : Whole nestedTokens nestedNode :=
    whole_iff_spells.mpr (spells_of_eq_ok (e := sample .eof) rfl rfl)
  obtain ⟨hspread, -, hfound⟩ := whole_across_lines hwhole rebroken_nested
  exact ⟨hwhole, rebroken_nested, hspread, hfound.symm⟩

end Literals

end FloScript.Parser
