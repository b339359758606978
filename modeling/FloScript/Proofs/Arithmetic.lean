import Mathlib.Data.Nat.Digits.Defs
import FloScript.Proofs.ClauseAcceptance
import FloScript.Proofs.Scanning
import FloScript.Session

/-! Integer arithmetic from the text to the value: a text that writes a tree of integer operations,
with any blanks and any parentheses beyond the needed ones, runs to what the tree denotes. -/
namespace FloScript

/-- The operators of integer arithmetic. -/
inductive IntOp where
  | add | sub | mul | rem
  deriving DecidableEq

namespace IntOp

def symbol : IntOp → Char
  | add => '+'
  | sub => '-'
  | mul => '*'
  | rem => '%'

def kind : IntOp → Kind
  | add => .plus
  | sub => .minus
  | mul => .multiply
  | rem => .modulo

def text (o : IntOp) : String := String.ofList [o.symbol]

/-- The number of the operator's level: products bind tighter than sums. -/
def level : IntOp → Nat
  | mul | rem => 0
  | add | sub => 1

def operator : IntOp → Operator
  | add => .add
  | sub => .sub
  | mul => .mul
  | rem => .rem

/-- The result of an operator; the remainder is that of the division rounded down, and there is none
by zero. -/
def result? : IntOp → Int → Int → Option Int
  | add, a, b => some (a + b)
  | sub, a, b => some (a - b)
  | mul, a, b => some (a * b)
  | rem, a, b => if b = 0 then none else some (a.fmod b)

theorem level_lt (o : IntOp) : o.level < Parser.topTier := by
  cases o <;> decide

theorem kind_mem (o : IntOp) : o.kind ∈ Parser.operatorsAt o.level := by
  cases o <;> decide

theorem ofText?_text (o : IntOp) : Operator.ofText? o.text = some o.operator := by
  cases o <;> decide

end IntOp

/-- An expression of integer arithmetic. -/
inductive IntTree where
  | literal (n : Nat)
  | neg (x : IntTree)
  | binary (o : IntOp) (l r : IntTree)

namespace IntTree

/-- What the tree denotes; nothing if working it out from left to right takes a remainder by
zero. -/
def value? : IntTree → Option Int
  | literal n => some n
  | neg x => x.value?.map (- ·)
  | binary o l r => do o.result? (← l.value?) (← r.value?)

/-- The syntax tree. -/
def node : IntTree → Node
  | literal n => .number (.int n)
  | neg x => .unary "-" x.node
  | binary o l r => .binary l.node o.text r.node

/-- The depth of the tree. -/
def height : IntTree → Nat
  | literal _ => 1
  | neg x => x.height + 1
  | binary _ l r => max l.height r.height + 1

/-- How a run ends that gives an integer or takes a remainder by zero. -/
def ending : Option Int → Except Signal Value
  | some v => .ok (.int v)
  | none => .error (.fault (.division .integerRemainder))

/-- The number that digits write, the last digit counting least. -/
def decimal (ds : List Char) : Nat := Nat.ofDigits 10 (ds.reverse.map fun c => c.toNat - 48)

/-- The characters write the tree, with the parentheses that the levels need and possibly more, and
with blanks anywhere between tokens. The number says how loosely: 0 for a number or what stands in
parentheses, 1 for what has a sign, 2 for products and 3 for sums. -/
inductive Written : Nat → IntTree → List Char → Prop where
  | literal {n : Nat} {ds : List Char} : (∀ c ∈ ds, c.isDigit = true) → ds ≠ [] →
      ds.length ≤ Number.digitLimit → decimal ds = n → Written 0 (.literal n) ds
  | parenthesized {x : IntTree} {cs : List Char} :
      Written 3 x cs → Written 0 x ('(' :: (cs ++ [')']))
  | neg {x : IntTree} {cs : List Char} : Written 1 x cs → Written 1 (.neg x) ('-' :: cs)
  | binary {o : IntOp} {l r : IntTree} {cs ds : List Char} :
      Written (o.level + 2) l cs → Written (o.level + 1) r ds →
      Written (o.level + 2) (.binary o l r) (cs ++ o.symbol :: ds)
  | loosen {n : Nat} {x : IntTree} {cs : List Char} : n < 3 → Written n x cs → Written (n + 1) x cs
  | before {n : Nat} {x : IntTree} {c : Char} {cs : List Char} :
      Scanner.isGap c = true → Written n x cs → Written n x (c :: cs)
  | after {n : Nat} {x : IntTree} {c : Char} {cs : List Char} :
      Scanner.isGap c = true → Written n x cs → Written n x (cs ++ [c])

theorem Written.raise {m n : Nat} {x : IntTree} {cs : List Char} (h : Written m x cs) (hmn : m ≤ n)
    (hn : n ≤ 3) : Written n x cs := by
  induction hmn with
  | refl => exact h
  | step _ ih => exact .loosen (by omega) (ih (by omega))

theorem digitsValue_eq_decimal {ds : List Char} (hd : ∀ c ∈ ds, c.isDigit = true) :
    Number.digitsValue ds = decimal ds := by
  have hfold : ∀ n, ds.foldl (fun n c => if c.isDigit then 10 * n + (c.toNat - 48) else n) n =
      ds.foldl (fun n c => c.toNat - 48 + 10 * n) n := by
    induction ds with
    | nil => simp
    | cons d ds ih =>
      intro n
      have hcons := ih (fun c hc => hd c (by simp [hc])) (10 * n + (d.toNat - 48))
      rw [List.foldl_cons, List.foldl_cons, if_pos (hd d (by simp)), hcons, Nat.add_comm]
  rw [Number.digitsValue, hfold, decimal, Nat.ofDigits_eq_foldr, List.foldr_map, List.foldr_reverse]
  rfl

section Reading

open FloScript.Scanner FloScript.Parser FloScript.Lexeme

variable {n : Nat} {x l r : IntTree} {o : IntOp} {c : Char}
  {cs ds : List Char} {ls ms : List Lexeme}

theorem isSymbol_of_mem {k : Kind} (h : (c, k) ∈ [('+', Kind.plus), ('-', .minus), ('*', .multiply),
    ('%', .modulo), ('(', .lparen), (')', .rparen)]) : IsSymbol c k := by
  simp only [List.mem_cons, Prod.mk.injEq, List.not_mem_nil, or_false] at h
  rcases h with ⟨rfl, rfl⟩ | ⟨rfl, rfl⟩ | ⟨rfl, rfl⟩ | ⟨rfl, rfl⟩ | ⟨rfl, rfl⟩ | ⟨rfl, rfl⟩ <;>
    exact ⟨by decide, by decide, by decide, by decide, by decide, by decide, by decide,
      fun _ => rfl⟩

theorem isSymbol_operator (o : IntOp) : IsSymbol o.symbol o.kind := by
  apply isSymbol_of_mem
  cases o <;> simp [IntOp.symbol, IntOp.kind]

theorem isSymbol_lparen : IsSymbol '(' .lparen := isSymbol_of_mem (by simp)

theorem isSymbol_rparen : IsSymbol ')' .rparen := isSymbol_of_mem (by simp)

/-- The lexemes of a piece of text, and that they spell the tree. -/
structure Tokenized (n : Nat) (x : IntTree) (cs : List Char) (ls : List Lexeme) : Prop where
  yields : Yields cs ls
  nameless : ∀ l ∈ ls, l.1 ≠ .identifier
  spelled : ∀ us, us.map Token.lexeme = ls → SpelledAt x.node us n

namespace Tokenized

theorem literal (hd : ∀ c ∈ ds, c.isDigit = true) (hne : ds ≠ [])
    (hl : ds.length ≤ Number.digitLimit) :
    Tokenized 0 (.literal (decimal ds)) ds [(.number, .int (decimal ds))] where
  yields := by
    rw [← digitsValue_eq_decimal hd]
    exact yields_number hd hne hl
  nameless := by simp
  spelled us hus := by
    obtain ⟨t, rfl, ht⟩ := List.map_eq_singleton_iff.mp hus
    have hk : t.kind = .number := congrArg Prod.fst ht
    have hv : t.value = .int (decimal ds) := congrArg Prod.snd ht
    exact .base fun k => .base (.leaf (by simp [leaf?, hk, hv, node]))

theorem ahead_ne_identifier (h : Tokenized n x cs ls) {us : List Token}
    (hus : us.map Token.lexeme = ls) :
    ahead us .rparen ≠ .identifier := by
  cases us with
  | nil => decide
  | cons u us => exact h.nameless u.lexeme (by simp [← hus])

theorem parenthesized (h : Tokenized 3 x cs ls) :
    Tokenized 0 x ('(' :: (cs ++ [')'])) (plain .lparen "(" :: (ls ++ [plain .rparen ")"])) where
  yields := by
    have hclose := h.yields.append (Yields.symbol isSymbol_rparen yields_nil) fun rest _ =>
      bounded_cons (by decide) isSymbol_rparen.digit rest
    exact Yields.symbol isSymbol_lparen hclose
  nameless := by
    intro l hl
    simp only [List.mem_cons, List.mem_append, List.not_mem_nil, or_false] at hl
    rcases hl with rfl | hl | rfl
    · decide
    · exact h.nameless l hl
    · decide
  spelled us hus := by
    obtain ⟨o, vs, rfl, ho, hv⟩ := List.map_eq_cons_iff.mp hus
    obtain ⟨ws, qs, rfl, hw, hq⟩ := List.map_eq_append_iff.mp hv
    obtain ⟨q, rfl, hx⟩ := List.map_eq_singleton_iff.mp hq
    have hinner := (h.spelled ws hw).expression (k := .rparen) rfl
    exact .base fun k => .base
      (.parenthesized (kind_of_lexeme ho) hinner (h.ahead_ne_identifier hw) (kind_of_lexeme hx))

theorem neg (h : Tokenized 1 x cs ls) :
    Tokenized 1 (.neg x) ('-' :: cs) (plain .minus "-" :: ls) where
  yields := Yields.symbol (isSymbol_operator .sub) h.yields
  nameless := by
    intro l hl
    rcases List.mem_cons.mp hl with rfl | hl
    · decide
    · exact h.nameless l hl
  spelled us hus := by
    obtain ⟨o, vs, rfl, ho, hv⟩ := List.map_eq_cons_iff.mp hus
    have hoperand := h.spelled vs hv
    rw [node, ← text_of_lexeme ho]
    exact .signed fun k hk =>
      .unary (.inr (kind_of_lexeme ho)) (hoperand.tier (by decide) ⟨hk, by simp⟩)

theorem binary (hl : Tokenized (o.level + 2) l cs ls) (hr : Tokenized (o.level + 1) r ds ms) :
    Tokenized (o.level + 2) (.binary o l r) (cs ++ o.symbol :: ds)
      (ls ++ plain o.kind o.text :: ms) where
  yields := by
    apply hl.yields.append (Yields.symbol (isSymbol_operator o) hr.yields)
    intro rest _
    refine bounded_cons ?_ (isSymbol_operator o).digit _
    cases o <;> decide
  nameless := by
    intro t ht
    rcases List.mem_append.mp ht with ht | ht
    · exact hl.nameless t ht
    · rcases List.mem_cons.mp ht with rfl | ht
      · cases o <;> decide
      · exact hr.nameless t ht
  spelled us hus := by
    obtain ⟨ws, t, vs, rfl, hw, ht, hv⟩ := lexemes_split hus
    have hk := kind_of_lexeme ht
    have hmem := o.kind_mem
    have hlt := o.level_lt
    have hright := hr.spelled vs hv
    rw [node, ← text_of_lexeme ht]
    refine .chain hlt fun k hj => .binary ?_ (hk ▸ hmem) (hright.tier (by omega) hj)
    exact (hl.spelled ws hw).inChain hlt (hk ▸ stops_of_operator hmem)

end Tokenized

theorem Written.tokenized (h : Written n x cs) : ∃ ls, Tokenized n x cs ls := by
  induction h with
  | literal hd hne hl hn =>
    subst hn
    exact ⟨_, .literal hd hne hl⟩
  | parenthesized _ ih =>
    obtain ⟨ls, h⟩ := ih
    exact ⟨_, h.parenthesized⟩
  | neg _ ih =>
    obtain ⟨ls, h⟩ := ih
    exact ⟨_, h.neg⟩
  | binary _ _ ihl ihr =>
    obtain ⟨ls, hl⟩ := ihl
    obtain ⟨ms, hr⟩ := ihr
    exact ⟨_, hl.binary hr⟩
  | loosen hn _ ih =>
    obtain ⟨ls, h⟩ := ih
    exact ⟨ls, h.yields, h.nameless,
      fun us hus => (h.spelled us hus).succ (by simp [topTier]; omega)⟩
  | before hc _ ih =>
    obtain ⟨ls, h⟩ := ih
    exact ⟨ls, h.yields.blank hc, h.nameless, h.spelled⟩
  | @after _ _ c cs hc _ ih =>
    obtain ⟨ls, h⟩ := ih
    have hy := h.yields.append (yields_nil.blank hc) fun rest _ => bounded_gap hc rest
    rw [List.append_nil] at hy
    exact ⟨ls, hy, h.nameless, h.spelled⟩

/-- The text of a tree is read as the tree. -/
theorem parse_written {source : String} (h : Written n x source.toList) :
    parse source = .ok (.program [x.node]) := by
  obtain ⟨ls, ht⟩ := h.tokenized
  obtain ⟨us, e, htokens, hus, he⟩ := tokensOf_of_yields ht.yields
  have hform :=
    composes_expression ((ht.spelled us hus).expression (k := .eof) rfl) (by decide) (by decide)
  have hprogram := (program_statement hform).programOf_eq he []
  rw [parse, htokens]
  exact hprogram

end Reading

section Evaluation

variable {x : IntTree} {rounds scope : Nat}

theorem apply_int (o : IntOp) (a b : Int) :
    Value.apply o.operator (.int a) (.int b) = Run.release (ending (o.result? a b)) := by
  cases o with
  | add => rfl
  | sub => rfl
  | mul => rfl
  | rem =>
    by_cases hb : b = 0
    · subst hb
      rfl
    · change (do Run.ofNumber (← Run.lift (Number.rem (.int a) (.int b)))) = _
      simp only [Number.rem, Number.combine, if_neg hb, IntOp.result?]
      rfl

theorem eval_binary (o : IntOp) (l r : Node) (depth : Nat) :
    eval rounds (depth + 1) (.binary l o.text r) scope = (do
      let a ← eval rounds depth l scope
      let b ← eval rounds depth r scope
      Value.apply o.operator a b) := by
  rw [eval, Evaluator.step]
  simp only [o.ofText?_text]

/-- A run of the tree gives what it denotes and changes nothing. -/
theorem eval_node {depth : Nat} (h : x.height ≤ depth) :
    eval rounds depth x.node scope = Run.release (ending x.value?) := by
  induction x generalizing depth with
  | literal n =>
    obtain ⟨d, rfl⟩ : ∃ d, depth = d + 1 := ⟨depth - 1, by simp only [height] at h; omega⟩
    rfl
  | neg x ih =>
    simp only [height] at h
    obtain ⟨d, rfl⟩ : ∃ d, depth = d + 1 := ⟨depth - 1, by omega⟩
    have hx : eval rounds d x.node scope = _ := ih (by omega)
    rw [node, eval, Evaluator.step, hx, value?]
    cases x.value? with
    | none => rfl
    | some v => rfl
  | binary o l r ihl ihr =>
    simp only [height] at h
    obtain ⟨d, rfl⟩ : ∃ d, depth = d + 1 := ⟨depth - 1, by omega⟩
    have hl : eval rounds d l.node scope = _ := ihl (by omega)
    have hr : eval rounds d r.node scope = _ := ihr (by omega)
    rw [node, eval_binary, hl, hr, value?]
    cases l.value? with
    | none => rfl
    | some a =>
      cases r.value? with
      | none => rfl
      | some b => exact apply_int o a b

theorem eval_program {depth : Nat} (h : x.height < depth) :
    eval rounds depth (.program [x.node]) scope = Run.release (ending x.value?) := by
  obtain ⟨d, rfl⟩ : ∃ d, depth = d + 1 := ⟨depth - 1, by omega⟩
  rw [eval, Evaluator.step]
  simp only [Evaluator.block, bind_pure]
  exact eval_node (by omega)

theorem exec_release (m : Machine) (e : Except Signal Value) : m.exec (Run.release e) = ⟨e, m⟩ := by
  cases e <;> rfl

end Evaluation

/-- A text that writes a tree is read as that tree, and at every depth that holds the tree, also in
a new machine if the limit is such a depth, it runs to the integer that the tree denotes, or to the
division fault if working the tree out from left to right takes a remainder by zero. -/
theorem runSource_written {x : IntTree} {n : Nat} {source : String}
    (h : Written n x source.toList) :
    parse source = .ok (.program [x.node]) ∧
      (∀ rounds depth (m : Machine), x.height < depth →
        m.exec (eval rounds depth (.program [x.node]) Machine.globals) = ⟨ending x.value?, m⟩) ∧
      (x.height < depthLimit →
        Machine.initial.exec (runSource source) = ⟨ending x.value?, Machine.initial⟩) := by
  have hp := parse_written h
  refine ⟨hp, ?_, ?_⟩
  · intro rounds depth m hd
    rw [eval_program hd, exec_release]
  · intro hd
    have hrun : runSource source = evaluate (.program [x.node]) := by rw [runSource, hp]; rfl
    rw [hrun, evaluate, eval_program hd, exec_release]

/-- The tree of `(1 + 2) * -7 % 5`. -/
def remainderOfProduct : IntTree :=
  .binary .rem (.binary .mul (.binary .add (.literal 1) (.literal 2)) (.neg (.literal 7)))
    (.literal 5)

theorem written_remainderOfProduct :
    Written 3 remainderOfProduct " (1 + 02)*- 7 %((5))".toList := by
  have hone : Written 0 (.literal 1) ['1'] :=
    .literal (List.all_eq_true.mp rfl) (by decide) (by decide) rfl
  have htwo : Written 0 (.literal 2) ['0', '2'] :=
    .literal (List.all_eq_true.mp rfl) (by decide) (by decide) rfl
  have hseven : Written 0 (.literal 7) ['7'] :=
    .literal (List.all_eq_true.mp rfl) (by decide) (by decide) rfl
  have hfive : Written 0 (.literal 5) ['5'] :=
    .literal (List.all_eq_true.mp rfl) (by decide) (by decide) rfl
  have hsum : Written 3 (.binary .add (.literal 1) (.literal 2)) "1 + 02".toList :=
    .binary (o := .add) (.after (c := ' ') rfl (hone.raise (by decide) (by decide)))
      (.before (c := ' ') rfl (htwo.raise (by decide) (by decide)))
  have hneg : Written 1 (.neg (.literal 7)) "- 7 ".toList :=
    .neg (.before (c := ' ') rfl (.after (c := ' ') rfl (hseven.raise (by decide) (by decide))))
  have hproduct :
      Written 2 (.binary .mul (.binary .add (.literal 1) (.literal 2)) (.neg (.literal 7)))
      "(1 + 02)*- 7 ".toList :=
    .binary (o := .mul) (hsum.parenthesized.raise (by decide) (by decide)) hneg
  have hdivisor : Written 0 (.literal 5) "((5))".toList :=
    ((hfive.raise (by decide) (by decide)).parenthesized.raise (by decide)
      (by decide)).parenthesized
  have hall : Written 2 remainderOfProduct "(1 + 02)*- 7 %((5))".toList :=
    .binary (o := .rem) hproduct (hdivisor.raise (by decide) (by decide))
  exact .before (c := ' ') rfl (hall.raise (by decide) (by decide))

theorem runSource_remainderOfProduct :
    Machine.initial.exec (runSource " (1 + 02)*- 7 %((5))") = ⟨.ok (.int 4), Machine.initial⟩ :=
  (runSource_written written_remainderOfProduct).2.2 (by decide)

end IntTree
end FloScript
