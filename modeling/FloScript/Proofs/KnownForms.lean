import FloScript.Proofs.ParsedTrees
import FloScript.Proofs.Policy
import FloScript.Proofs.Sessions

/-! What evaluation finds in the trees of source texts. It knows all operators in them, and all
nodes but for groups of decorators, so that a run without such groups never meets a node that it
does not know. -/
namespace FloScript

open Node (Part children Everywhere AreDecorators)

variable {source : String} {t : Node} {routines : List Native} {m : Machine}

section Operators

/-- Whether the node has an operator that evaluation does not know. -/
def Node.hasUnknownOperator : Node → Bool
  | binary _ op _ => (Operator.ofText? op).isNone
  | unary op _ => op != "-" && op != "!"
  | _ => false

theorem Node.Regular.knownOperator (h : t.Regular) : t.hasUnknownOperator = false := by
  cases t with
  | binary l op r =>
    simp only [hasUnknownOperator]
    cases ho : Operator.ofText? op with
    | none => exact absurd h (Operator.ofText?_eq_none_iff.mp ho)
    | some o => rfl
  | unary op x => rcases h with rfl | rfl <;> rfl
  | _ => rfl

/-- Trees with operators that evaluation knows, and signals that are not about an unknown
operator. -/
def knownOperators : Policy :=
  .everywhere (fun n => n.hasUnknownOperator = false)
    (fun e => ∀ op, e ≠ .fault (.runtime (.unknownOperator op)) ∧
      e ≠ .fault (.runtime (.unknownUnaryOperator op)))
    (fun f hf op => by constructor <;> rintro ⟨rfl⟩ <;> cases hf)
    (fun _ => ⟨nofun, nofun⟩)
    (fun _ _ => ⟨nofun, nofun⟩)
    (fun l op r hn ho => by simp [Node.hasUnknownOperator, ho] at hn)
    (fun op x hn hminus hnot => by simp [Node.hasUnknownOperator, hminus, hnot] at hn)
    (fun _ _ _ _ => ⟨nofun, nofun⟩)

/-- The machines on which sources were run one after the other, the first on a new one. -/
inductive Machine.Ran (routines : List Native) : Machine → Prop where
  | new : Ran routines (withNatives routines)
  | run {m : Machine} (source : String) :
      Ran routines m → Ran routines (endState (runSource source) m)

theorem knownOperators_of_parse (h : parse source = .ok t) : knownOperators.node t :=
  (parse_whollyRegular h).imp fun _ hn => hn.knownOperator

theorem alike_knownOperators (other : Evaluator) (rounds depth : Nat) :
    knownOperators.discipline.Alike (eval rounds depth)
      (evalExcept Node.hasUnknownOperator other rounds depth) :=
  Policy.alike_evalExcept (P := knownOperators) (fun _ hn => hn.self)
    (fun _ hc => hc) other rounds depth

theorem knownOperators_of_ran (h : Machine.Ran routines m) : knownOperators.Admits m := by
  induction h with
  | new => exact Policy.admits_withNatives routines
  | @run m source _ ih =>
    cases hp : parse source with
    | error e =>
      have hrun : runSource source m = .error (.fault e) m := by
        unfold runSource
        rw [hp]
        rfl
      rwa [endState_of_error hrun]
    | ok t =>
      rw [runSource_of_parse hp]
      exact (alike_knownOperators (eval 0 0) _ _ t (knownOperators_of_parse hp) _ 0 trivial
        m ih (Nat.le_refl 0)).2.1

/-- All operators in the tree of a source are known to evaluation. No run of the source meets a node
with another one, so it does not matter what would be done with such a node, and none ends with a
fault about an unknown operator. This holds on a new machine and after any other sources that were
run on it. -/
theorem operators_known (h : parse source = .ok t) :
    (∀ l op r, Part children (.binary l op r) t →
      op ∈ Operator.texts ∧ Operator.ofText? op ≠ none) ∧
    (∀ op x, Part children (.unary op x) t → op = "-" ∨ op = "!") ∧
    ∀ routines m, Machine.Ran routines m →
      (∀ other rounds depth,
        evalExcept Node.hasUnknownOperator other rounds depth t Machine.globals m =
          eval rounds depth t Machine.globals m) ∧
      ∀ op m', runSource source m ≠ .error (.fault (.runtime (.unknownOperator op))) m' ∧
        runSource source m ≠ .error (.fault (.runtime (.unknownUnaryOperator op))) m' := by
  have hregular := parse_whollyRegular h
  refine ⟨fun l op r hpart => ?_, fun op x hpart => hregular _ hpart, fun routines m hm => ?_⟩
  · have hop : op ∈ Operator.texts := hregular _ hpart
    exact ⟨hop, fun hnone => Operator.ofText?_eq_none_iff.mp hnone hop⟩
  have halike := fun other rounds depth =>
    alike_knownOperators other rounds depth t (knownOperators_of_parse h)
      Machine.globals 0 trivial m (knownOperators_of_ran hm) (Nat.le_refl 0)
  refine ⟨fun other rounds depth => (halike other rounds depth).1.symm, fun op m' => ?_⟩
  have hresult := (halike (eval 0 0) roundLimit depthLimit).2.2.2
  rw [runSource_of_parse h]
  exact ⟨hresult.ne_error fun hs => (hs op).1 rfl, hresult.ne_error fun hs => (hs op).2 rfl⟩

/-- A comparison that is the argument of a decorator. -/
def decoratingComparison : Node := .program
  [.decorator "a" [.binary (.number (.int 1)) "<=" (.unary "-" (.number (.int 2)))],
    .identifier "x"]

def decoratingComparisonTokens : List Token :=
  [⟨.atSign, .text "@", ⟨1, 1⟩⟩, ⟨.identifier, .text "a", ⟨1, 2⟩⟩, ⟨.lparen, .text "(", ⟨1, 3⟩⟩,
    ⟨.number, .int 1, ⟨1, 4⟩⟩, ⟨.lessEqual, .text "<=", ⟨1, 6⟩⟩, ⟨.minus, .text "-", ⟨1, 9⟩⟩,
    ⟨.number, .int 2, ⟨1, 10⟩⟩, ⟨.rparen, .text ")", ⟨1, 11⟩⟩, ⟨.newline, .text "\n", ⟨1, 12⟩⟩,
    ⟨.identifier, .text "x", ⟨2, 1⟩⟩, ⟨.eof, .null, ⟨2, 2⟩⟩]

theorem decoratingComparison_known :
    parse "@a(1 <= -2)\nx" = .ok decoratingComparison ∧ "<=" ∈ Operator.texts ∧
      ∀ op m',
        runSource "@a(1 <= -2)\nx" .initial ≠
          .error (.fault (.runtime (.unknownOperator op))) m' ∧
        runSource "@a(1 <= -2)\nx" .initial ≠
          .error (.fault (.runtime (.unknownUnaryOperator op))) m' := by
  have htokens :
      Scanner.tokensFrom? 12 ⟨1, 1⟩ "@a(1 <= -2)\nx".toList = some decoratingComparisonTokens := rfl
  have hparse : parse "@a(1 <= -2)\nx" = .ok decoratingComparison := parse_of_tokens htokens rfl
  obtain ⟨hbinary, -, hrun⟩ := operators_known hparse
  refine ⟨hparse, hbinary (.number (.int 1)) _ (.unary "-" (.number (.int 2))) ?_ |>.1,
    (hrun _ _ .new).2⟩
  exact .inner List.mem_cons_self (.inner List.mem_cons_self .self)

end Operators

section Nodes

/-- Trees of nodes that evaluation knows, and signals that are not about an unknown node. -/
def knownNodes : Policy :=
  .everywhere (fun n => n.isHandled = true)
    (fun e => ∀ name, e ≠ .fault (.runtime (.unknownNode name)))
    (fun f hf name => by rintro ⟨rfl⟩; cases hf) (fun _ => nofun)
    (fun _ _ => nofun)
    (fun _ _ _ _ _ _ => nofun)
    (fun _ _ _ _ _ _ => nofun)
    (fun n hn hk => by rw [hn] at hk; cases hk)

theorem Node.Regular.group_of_unhandled (h : t.Regular) (hk : t.isHandled = false) :
    ∃ ds, t = .group ds ∧ 2 ≤ ds.length ∧ AreDecorators ds := by
  cases t with
  | group ds => exact ⟨ds, rfl, h⟩
  | blank | stray l => exact h.elim
  | _ => cases hk

theorem group_of_unhandled_part (h : parse source = .ok t) {n : Node} (hpart : Part children n t)
    (hk : n.isHandled = false) : ∃ ds, n = .group ds ∧ 2 ≤ ds.length ∧ AreDecorators ds :=
  (parse_whollyRegular h n hpart).group_of_unhandled hk

theorem knownNodes_of_parse (h : parse source = .ok t) (hno : ∀ ds, ¬ Part children (.group ds) t) :
    knownNodes.node t := by
  intro n hpart
  cases hk : n.isHandled with
  | true => rfl
  | false =>
    obtain ⟨ds, rfl, -⟩ := group_of_unhandled_part h hpart hk
    exact absurd hpart (hno ds)

theorem alike_knownNodes (other : Evaluator) (rounds depth : Nat) :
    knownNodes.discipline.Alike (eval rounds depth)
      (evalExcept (fun n => !n.isHandled) other rounds depth) := by
  refine Policy.alike_evalExcept (P := knownNodes) (fun n hn => ?_)
    (fun _ hc => hc) other rounds depth
  rw [hn.self]
  rfl

/-- A run that comes to a group among the statements of the program ends there. -/
theorem eval_to_group {ss rest ds : List Node} {m' : Machine} {v : Value}
    (hss : Evaluator.block (eval roundLimit (depthLimit - 1)) Machine.globals .null ss m =
      .ok v m') :
    eval roundLimit depthLimit (.program (ss ++ .group ds :: rest)) Machine.globals m =
      .error (.fault (.runtime (.unknownNode "list"))) m' := by
  -- the statements are run one level below the program
  have hblock : eval roundLimit depthLimit (.program (ss ++ .group ds :: rest)) Machine.globals =
      Evaluator.block (eval roundLimit (depthLimit - 1)) Machine.globals .null
        (ss ++ .group ds :: rest) := rfl
  rw [hblock, Evaluator.block_append, Run.bind_ok hss]
  rfl

/-- The only nodes in the tree of a source that evaluation does not know are groups of two or more
decorators. If there are none, no run of the source on a new machine meets an unknown node, and none
ends with a fault about one. A group among the statements of the program ends every run that comes
to it. -/
theorem executable_unless_grouped (h : parse source = .ok t) :
    (∀ n, Part children n t → n.isHandled = false →
      ∃ ds, n = .group ds ∧ 2 ≤ ds.length ∧ AreDecorators ds) ∧
    ((∀ ds, ¬ Part children (.group ds) t) → ∀ routines,
      (∀ other rounds depth,
        evalExcept (fun n => !n.isHandled) other rounds depth t Machine.globals
            (.withNatives routines) =
          eval rounds depth t Machine.globals (.withNatives routines)) ∧
      ∀ name m', runSource source (.withNatives routines) ≠
        .error (.fault (.runtime (.unknownNode name))) m') ∧
    ∀ ss ds rest, t = .program (ss ++ .group ds :: rest) → ∀ m v m',
      Evaluator.block (eval roundLimit (depthLimit - 1)) Machine.globals .null ss m = .ok v m' →
        runSource source m = .error (.fault (.runtime (.unknownNode "list"))) m' := by
  refine ⟨fun n hpart hk => group_of_unhandled_part h hpart hk, fun hno routines => ?_, ?_⟩
  · have halike := fun other rounds depth =>
      alike_knownNodes other rounds depth t (knownNodes_of_parse h hno) Machine.globals 0 trivial _
        (Policy.admits_withNatives routines) (Nat.le_refl 0)
    refine ⟨fun other rounds depth => (halike other rounds depth).1.symm, fun name m' => ?_⟩
    rw [runSource_of_parse h]
    exact (halike (eval 0 0) roundLimit depthLimit).2.2.2.ne_error fun hs => hs name rfl
  · rintro ss ds rest rfl m v m' hss
    rw [runSource_of_parse h]
    exact eval_to_group hss

/-- Two decorators in front of an assignment. -/
def twiceDecorated : Node := .program
  [.group [.decorator "a" [], .decorator "b" []], .assignment "x" (.number (.int 1))]

def twiceDecoratedTokens : List Token :=
  [⟨.atSign, .text "@", ⟨1, 1⟩⟩, ⟨.identifier, .text "a", ⟨1, 2⟩⟩, ⟨.newline, .text "\n", ⟨1, 3⟩⟩,
    ⟨.atSign, .text "@", ⟨2, 1⟩⟩, ⟨.identifier, .text "b", ⟨2, 2⟩⟩, ⟨.newline, .text "\n", ⟨2, 3⟩⟩,
    ⟨.identifier, .text "x", ⟨3, 1⟩⟩, ⟨.assign, .text "=", ⟨3, 3⟩⟩, ⟨.number, .int 1, ⟨3, 5⟩⟩,
    ⟨.eof, .null, ⟨3, 6⟩⟩]

/-- One decorator in front of an assignment. -/
def onceDecorated : Node := .program [.decorator "a" [], .assignment "x" (.number (.int 1))]

def onceDecoratedTokens : List Token :=
  [⟨.atSign, .text "@", ⟨1, 1⟩⟩, ⟨.identifier, .text "a", ⟨1, 2⟩⟩, ⟨.newline, .text "\n", ⟨1, 3⟩⟩,
    ⟨.identifier, .text "x", ⟨2, 1⟩⟩, ⟨.assign, .text "=", ⟨2, 3⟩⟩, ⟨.number, .int 1, ⟨2, 5⟩⟩,
    ⟨.eof, .null, ⟨2, 6⟩⟩]

theorem onceDecorated_ungrouped (ds : List Node) : ¬ Part children (.group ds) onceDecorated := by
  have h : Everywhere children (fun n => ∀ ds, n ≠ .group ds) onceDecorated := by
    simp only [onceDecorated]
    repeat' first
      | exact List.forall_mem_nil _
      | refine List.forall_mem_cons.mpr ⟨?_, ?_⟩
      | refine Node.everywhere_iff.mpr ⟨nofun, ?_⟩
  exact fun hpart => h _ hpart ds rfl

theorem decorated_assignments :
    (parse "@a\n@b\nx = 1" = .ok twiceDecorated ∧
      runSource "@a\n@b\nx = 1" .initial =
        .error (.fault (.runtime (.unknownNode "list"))) .initial) ∧
    parse "@a\nx = 1" = .ok onceDecorated ∧
      ∀ name m', runSource "@a\nx = 1" .initial ≠
        .error (.fault (.runtime (.unknownNode name))) m' := by
  have htokens : Scanner.tokensFrom? 11 ⟨1, 1⟩ "@a\n@b\nx = 1".toList = some twiceDecoratedTokens :=
    rfl
  have htwice : parse "@a\n@b\nx = 1" = .ok twiceDecorated := parse_of_tokens htokens rfl
  have htokens : Scanner.tokensFrom? 8 ⟨1, 1⟩ "@a\nx = 1".toList = some onceDecoratedTokens := rfl
  have honce : parse "@a\nx = 1" = .ok onceDecorated := parse_of_tokens htokens rfl
  refine ⟨⟨htwice, ?_⟩, honce, ?_⟩
  · exact (executable_unless_grouped htwice).2.2 [] _ _ rfl _ _ _ rfl
  · exact ((executable_unless_grouped honce).2.1 onceDecorated_ungrouped _).2

end Nodes

end FloScript
