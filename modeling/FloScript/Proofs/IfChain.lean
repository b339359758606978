import FloScript.Evaluation
import FloScript.Proofs.ClauseAcceptance

/-! Chains of conditions. A chain whose branches are blocks is one condition with the rest of the
chain in its else part, so a run of it takes one branch at most. A chain whose branches have arrows
falls apart at every `else` that another condition follows: each arm but the last is a condition of
its own. -/
namespace FloScript

/-- A condition and the expression of its branch. -/
structure Arm where
  condition : Node
  branch : Node

namespace Arm

/-- The condition of one arm, with the rest of its chain in the else part. -/
def tree (a : Arm) : List Arm → Option Node → Node
  | [], last => .conditional a.condition [a.branch] (last.map ([·]))
  | b :: bs, last => .conditional a.condition [a.branch] (some [tree b bs last])

/-- The arms one after the other, where only the last has an else part. -/
def apart (a : Arm) : List Arm → Option Node → List Node
  | [], last => [.conditional a.condition [a.branch] (last.map ([·]))]
  | b :: bs, last => .conditional a.condition [a.branch] none :: apart b bs last

theorem length_apart (a : Arm) (as : List Arm) (last : Option Node) :
    (a.apart as last).length = as.length + 1 := by
  induction as generalizing a with
  | nil => rfl
  | cons b bs ih => simp [apart, ih]

theorem apart_eq_tree_iff (a : Arm) (as : List Arm) (last : Option Node) :
    a.apart as last = [a.tree as last] ↔ as = [] := by
  constructor
  · intro h
    have hl := congrArg List.length h
    rw [length_apart] at hl
    exact List.length_eq_zero_iff.mp (by simpa using hl)
  · rintro rfl
    rfl

/-- Finds the branch of a chain, with the depth at which it is evaluated: evaluates conditions up to
the first that holds, and no branch. -/
def select (rounds scope : Nat) : Nat → Arm → List Arm → Option Node → Run (Option (Node × Nat))
  | 0, _, _, _ => Run.fail .depth
  | depth + 1, a, as, last => do
    let v ← eval rounds depth a.condition scope
    if v.truthy (← Run.scopes) then return some (a.branch, depth)
    else
      match as with
      | [] => return last.map (·, depth)
      | b :: bs => select rounds scope depth b bs last

/-- Evaluates the branch found, if there is one. -/
def take (rounds scope : Nat) : Option (Node × Nat) → Run Value
  | none => return .null
  | some (n, depth) => eval rounds depth n scope

/-- Takes a branch of each arm alone, one arm after the other. -/
def takeEach (rounds scope depth : Nat) (a : Arm) : List Arm → Option Node → Run Value
  | [], last => select rounds scope depth a [] last >>= take rounds scope
  | b :: bs, last => do
    let _ ← select rounds scope depth a [] none >>= take rounds scope
    takeEach rounds scope depth b bs last

theorem block_singleton (ev : Evaluator) (scope : Nat) (v : Value) (n : Node) :
    ev.block scope v [n] = ev n scope := by
  simp [Evaluator.block]

/-- What a run of an arm's condition does, whatever its else part is. -/
theorem eval_arm (rounds scope depth : Nat) (a : Arm) (no : Option (List Node)) :
    eval rounds (depth + 1) (.conditional a.condition [a.branch] no) scope = (do
      let v ← eval rounds depth a.condition scope
      if v.truthy (← Run.scopes) then take rounds scope (some (a.branch, depth))
      else (eval rounds depth).block scope .null (no.getD [])) := by
  rw [eval, Evaluator.step]
  simp only [block_singleton, take]

/-- How a run of a chain goes on once the branch is found. -/
theorem select_take (rounds scope depth : Nat) (a : Arm) (as : List Arm) (last : Option Node) :
    select rounds scope (depth + 1) a as last >>= take rounds scope = (do
      let v ← eval rounds depth a.condition scope
      if v.truthy (← Run.scopes) then take rounds scope (some (a.branch, depth))
      else
        match as with
        | [] => take rounds scope (last.map (·, depth))
        | b :: bs => select rounds scope depth b bs last >>= take rounds scope) := by
  rw [select.eq_def]
  simp only [bind_assoc]
  refine bind_congr fun v => bind_congr fun ss => ?_
  split
  · rw [pure_bind]
  · cases as with
    | nil => exact pure_bind _ _
    | cons b bs => rfl

/-- A run of a chain evaluates conditions up to the first that holds, and then at most one
branch. -/
theorem eval_tree (rounds scope depth : Nat) (a : Arm) (as : List Arm) (last : Option Node) :
    eval rounds depth (a.tree as last) scope =
      select rounds scope depth a as last >>= take rounds scope := by
  induction as generalizing a depth with
  | nil =>
    cases depth with
    | zero => rfl
    | succ depth =>
      rw [tree, eval_arm, select_take]
      cases last with
      | none => rfl
      | some d => simp only [Option.map_some, Option.getD_some, block_singleton, take]
  | cons b bs ih =>
    cases depth with
    | zero => rfl
    | succ depth =>
      rw [tree, eval_arm, select_take]
      simp only [Option.getD_some, block_singleton, ih]

/-- A run of the arms one after the other takes a branch of each. -/
theorem block_apart (rounds scope depth : Nat) (v : Value) (a : Arm)
    (as : List Arm) (last : Option Node) :
    (eval rounds depth).block scope v (a.apart as last) =
      takeEach rounds scope depth a as last := by
  induction as generalizing a v with
  | nil =>
    have h := eval_tree rounds scope depth a [] last
    rw [tree] at h
    rw [apart, block_singleton, h, takeEach]
  | cons b bs ih =>
    have h := eval_tree rounds scope depth a [] none
    rw [tree, Option.map_none] at h
    rw [apart, Evaluator.block, h, takeEach]
    simp only [ih]

end Arm

namespace Parser

variable {S : Parser Node} {c d e : Node} {a b : Arm} {as bs : List Arm} {last : Option Node}
  {i l o q z : Token} {us cs ds ns : List Token} {k : Kind} {n : Nat}

/-- The two ways to write a branch. -/
inductive Style where
  | arrow
  | braces

/-- The tokens of a branch. -/
inductive Branch : Style → Node → List Token → Prop where
  | arrow {o : Token} {us : List Token} {e : Node} :
      o.kind = .arrow → Whole us e → Branch .arrow e (o :: us)
  | braces {o q : Token} {us : List Token} {e : Node} :
      o.kind = .lbrace → Whole us e → q.kind = .rbrace → Branch .braces e (o :: (us ++ [q]))

/-- The tokens of a chain with all its branches written in one way; newlines may stand before each
`else`. -/
inductive Chain (style : Style) : Arm → List Arm → Option Node → List Token → Prop where
  | alone {a : Arm} {i : Token} {cs us : List Token} :
      i.kind = .ifWord → Whole cs a.condition → Branch style a.branch us →
      Chain style a [] none (i :: (cs ++ us))
  | otherwise {a : Arm} {d : Node} {i l : Token} {cs us ns ds : List Token} :
      i.kind = .ifWord → Whole cs a.condition → Branch style a.branch us →
      (∀ n ∈ ns, n.kind = .newline) → l.kind = .elseWord → Branch style d ds →
      Chain style a [] (some d) (i :: (cs ++ (us ++ (ns ++ l :: ds))))
  | next {a b : Arm} {bs : List Arm} {last : Option Node} {i l : Token} {cs us ns ds : List Token} :
      i.kind = .ifWord → Whole cs a.condition → Branch style a.branch us →
      (∀ n ∈ ns, n.kind = .newline) → l.kind = .elseWord → Chain style b bs last ds →
      Chain style a (b :: bs) last (i :: (cs ++ (us ++ (ns ++ l :: ds))))

theorem Whole.spells (h : Whole us e) (hk : k.continues = false) : Spells .expression e us k :=
  (whole_iff_spells.mp h).before hk

theorem Chain.opens {style : Style} (h : Chain style a as last us) (k : Kind) :
    ahead us k = .ifWord := by
  cases h <;> assumption

/-- A block is closed by its own brace, so any token may follow it. -/
theorem Branch.composes_block (h : Branch .braces e us) (k : Kind) : Composes .block [e] us k := by
  cases h with
  | @braces o q us e ho hw hq =>
    have hs := hw.spells (k := .rbrace) rfl
    have hform := composes_expression hs (by decide) (by decide)
    have hlines : Composes (.lines .rbrace) [e] (us ++ ([] ++ [])) .rbrace :=
      .cons hform.ofForm newlines_nil (by decide) .nil
    rw [List.append_nil, List.append_nil] at hlines
    exact .braces ho newlines_nil (ahead_ne_of_spells hs rfl) hlines hq

theorem Branch.opens_block (h : Branch .braces e us) (k : Kind) : ahead us k = .lbrace := by
  cases h
  assumption

/-- One arm of a chain in braces, from how the rest of the chain is composed. -/
theorem composes_blockArm {no : Option (List Node)} (hi : i.kind = .ifWord)
    (hc : Whole cs a.condition) (hb : Branch .braces a.branch us)
    (hd : Composes (.wordBlock .elseWord) no ds k) :
    Composes .form (.conditional a.condition [a.branch] no) (i :: (cs ++ (us ++ ds))) k := by
  have hk : ahead (us ++ ds) k = .lbrace := by rw [ahead_append, hb.opens_block]
  apply Composes.blockIf hi _ _ (hb.composes_block _) hd
  · rw [hk]
    exact hc.spells rfl
  · rw [hk]
    decide

theorem Chain.composes_braces (h : Chain .braces a as last us) :
    Composes .form (a.tree as last) us .eof := by
  induction h with
  | @alone a i cs us hi hc hb =>
    have hf :=
      composes_blockArm (k := .eof) hi hc hb (.without newlines_nil (by decide) (by decide))
    rwa [List.append_nil] at hf
  | otherwise hi hc hb hns hl hd =>
    exact composes_blockArm hi hc hb (.after hns hl (hd.composes_block _))
  | @next a b bs last i l cs us ns ds hi hc hb hns hl h ih =>
    have hk : ahead ds .eof ≠ .lbrace := by rw [h.opens]; decide
    exact composes_blockArm hi hc hb (.after hns hl (.single ih.ofForm hk))

/-- One arm of a chain with arrows, from what follows its branch. -/
theorem composes_arrowArm {no : Option (List Node)} (hi : i.kind = .ifWord)
    (hc : Whole cs a.condition) (hb : Branch .arrow a.branch us)
    (hk : (ahead ds k).continues = false) (hd : ArrowElse no ds k) :
    Composes .form (.conditional a.condition [a.branch] no) (i :: (cs ++ (us ++ ds))) k := by
  cases hb with
  | arrow ho hw => exact .arrowIf hi (hc.spells rfl) ho (.expression (hw.spells hk)) hd

theorem ahead_else (hn : ∀ n ∈ ns, n.kind = .newline) (hl : l.kind = .elseWord) (ds : List Token) :
    (ahead (ns ++ l :: ds) k).continues = false := by
  cases ns with
  | nil => simp only [List.nil_append, ahead_cons, hl]; rfl
  | cons m ns => simp only [List.cons_append, ahead_cons, hn m (by simp)]; rfl

theorem Chain.program_arrow (h : Chain .arrow a as last us) : Program (a.apart as last) us := by
  induction h with
  | @alone a i cs us hi hc hb =>
    have hf :=
      composes_arrowArm (k := .eof) hi hc hb rfl (.absent newlines_nil (by decide) (by decide))
    rw [List.append_nil] at hf
    exact program_statement hf
  | otherwise hi hc hb hns hl hd =>
    cases hd with
    | arrow ho hw =>
      have he : ArrowElse _ _ .eof := .given hns hl ho (.expression (hw.spells rfl))
      exact program_statement (composes_arrowArm hi hc hb (ahead_else hns hl _) he)
  | @next a b bs last i l cs us ns ds hi hc hb hns hl h ih =>
    have hk := h.opens .eof
    -- the dropped `else` belongs to this arm, and the rest of the chain are statements of their own
    have he : ArrowElse none (ns ++ [l]) (ahead ds .eof) := .dropped hns hl (by rw [hk]; decide)
    have hs := composes_arrowArm hi hc hb (ahead_else hns hl _) he
    have hall := program_cons hs ih
    simpa [Arm.apart] using hall

/-- An arrow chain and a brace chain with the same arms: the braces give one condition, of which a
run takes at most one branch; the arrows give one statement for each arm, of which a run takes a
branch each. They agree exactly if there is one arm. -/
theorem arrowChain_eq_braceChain_iff {vs : List Token} (hb : Chain .braces a as last us)
    (ha : Chain .arrow a as last vs) (hz : z.kind = .eof) :
    programOf (us ++ [z]) = .ok (.program [a.tree as last]) ∧
      programOf (vs ++ [z]) = .ok (.program (a.apart as last)) ∧
      (programOf (vs ++ [z]) = programOf (us ++ [z]) ↔ as = []) ∧
      (∀ rounds depth scope, eval rounds (depth + 1) (.program [a.tree as last]) scope =
        Arm.select rounds scope depth a as last >>= Arm.take rounds scope) ∧
      ∀ rounds depth scope, eval rounds (depth + 1) (.program (a.apart as last)) scope =
        Arm.takeEach rounds scope depth a as last := by
  have hub : programOf (us ++ [z]) = .ok (.program [a.tree as last]) :=
    (program_statement hb.composes_braces).programOf_eq hz []
  have hua : programOf (vs ++ [z]) = .ok (.program (a.apart as last)) :=
    ha.program_arrow.programOf_eq hz []
  refine ⟨hub, hua, ?_, ?_, ?_⟩
  · rw [hub, hua, ← Arm.apart_eq_tree_iff a as last]
    simp
  · intro rounds depth scope
    rw [← Arm.eval_tree, eval, Evaluator.step, Arm.block_singleton]
  · intro rounds depth scope
    rw [eval, Evaluator.step, Arm.block_apart]

/-- A token at the beginning of a text. -/
def word (k : Kind) (v : Literal) : Token := ⟨k, v, ⟨1, 1⟩⟩

/-- The branch `i`. -/
def numberBranch (i : Int) : Style → List Token
  | .arrow => [word .arrow (.text "=>"), word .number (.int i)]
  | .braces =>
    word .lbrace (.text "\x7b") :: ([word .number (.int i)] ++ [word .rbrace (.text "\x7d")])

/-- A chain of two conditions that hold, the second on a new line. -/
def twoArms (style : Style) : List Token :=
  word .ifWord (.text "if") :: ([word .trueWord (.text "true")] ++ (numberBranch 1 style ++
    ([word .newline (.text "\n")] ++ word .elseWord (.text "else") ::
      (word .ifWord (.text "if") :: ([word .trueWord (.text "true")] ++ numberBranch 2 style)))))

theorem branch_numberBranch (i : Int) (style : Style) :
    Branch style (.number (.int i)) (numberBranch i style) := by
  cases style with
  | arrow => exact .arrow rfl (whole_leaf rfl)
  | braces => exact .braces rfl (whole_leaf rfl) rfl

theorem chain_twoArms (style : Style) :
    Chain style ⟨.boolean (.bool true), .number (.int 1)⟩
      [⟨.boolean (.bool true), .number (.int 2)⟩] none (twoArms style) := by
  have hsecond := Chain.alone (a := ⟨.boolean (.bool true), .number (.int 2)⟩)
    (i := word .ifWord (.text "if")) rfl (whole_leaf (o := word .trueWord (.text "true")) rfl)
    (branch_numberBranch 2 style)
  exact .next rfl (whole_leaf rfl) (branch_numberBranch 1 style) (by simp [word]) rfl hsecond

theorem twoArms_differ :
    programOf (twoArms .arrow ++ [word .eof .null]) =
        .ok (.program [.conditional (.boolean (.bool true)) [.number (.int 1)] none,
          .conditional (.boolean (.bool true)) [.number (.int 2)] none]) ∧
      programOf (twoArms .arrow ++ [word .eof .null]) ≠
        programOf (twoArms .braces ++ [word .eof .null]) := by
  obtain ⟨-, harrow, hiff, -⟩ :=
    arrowChain_eq_braceChain_iff (z := word .eof .null) (chain_twoArms .braces)
      (chain_twoArms .arrow) rfl
  exact ⟨harrow, fun h => by simpa using hiff.mp h⟩

end Parser
end FloScript
