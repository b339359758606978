import FloScript.Proofs.ParsedTrees
import FloScript.Proofs.Policy

/-! Returns stay inside of functions: a call ends every return of the function's body, and a program
in which return statements stand in function bodies only never ends with one. -/
namespace FloScript

open Node (Part Everywhere outerChildren)
open Evaluator (block body call all)

/-- All return statements of the tree stand in bodies of functions. -/
def Node.ReturnsInFunctions : Node → Prop := Everywhere outerChildren fun n => ∀ x, n ≠ .returning x

/-- Nodes with no return statement outside of function bodies, and signals that are not returns.
There may be return statements in the bodies of functions, so all functions may be made. -/
def noReturns : Policy where
  node := Node.ReturnsInFunctions
  closure _ := True
  signal e := ∀ v, e ≠ .returned v
  calm _ _ := nofun
  unfinished := nofun
  evaluated _ hn _ hk := hn.part (Node.mem_outerChildren_of_evaluated hk)
  function _ _ _ _ _ _ := trivial
  returning x hn := absurd rfl (hn.self x)
  binary _ _ _ _ _ := nofun
  unary _ _ _ _ _ := nofun
  unhandled _ _ _ := nofun

namespace noReturns

variable {ev : Evaluator} {scope n : Nat} {ns : List Node} {m : Machine}

theorem good (v : Value) : noReturns.Good v := Value.holding_of_forall (fun _ _ _ _ => trivial) v

theorem admits (m : Machine) : noReturns.Admits m := ⟨fun _ _ _ => good _, fun _ _ _ => good _⟩

theorem not_returned {α : Type} {Q : Nat → α → Prop} {x y : Run α}
    (h : noReturns.discipline.Keeps scope 0 Q x y) (m m' : Machine) (v : Value) :
    x m ≠ .error (.returned v) m' :=
  (h m (admits m) (Nat.le_refl 0)).2.2.2.ne_error fun hs => hs v rfl

/-- A body ends with the value of a return, so it never ends with a return, whatever evaluates its
nodes. -/
theorem obeys_body :
    noReturns.discipline.Obeys scope n noReturns.discipline.Good (body ev scope ns) := by
  intro m _ _
  refine ⟨rfl, admits _, trivial, ?_⟩
  unfold body
  cases hr : block ev scope .null ns m with
  | ok v m' =>
    have hcapture : Run.capture (block ev scope .null ns) m = .ok (.ok v) m' := by
      simp only [Run.capture, hr]
    rw [Run.bind_ok hcapture]
    exact good v
  | error e m' =>
    rw [Run.bind_ok (Run.capture_error hr)]
    cases e with
    | returned v => exact good v
    | fault f => exact ⟨nofun, nofun⟩
    | unfinished => exact ⟨nofun, nofun⟩

theorem obeys_call (scope : Nat) (f : Value) (args : List Value) :
    noReturns.discipline.Obeys scope n noReturns.discipline.Good (call ev f args) :=
  Discipline.keeps_call (fun _ _ _ _ _ _ => obeys_body) (good f) fun _ _ => good _

theorem alike_eval (rounds depth : Nat) :
    noReturns.discipline.Alike (eval rounds depth) (eval rounds depth) := by
  induction depth with
  | zero => exact fun _ _ _ _ _ => Discipline.obeys_fail rfl
  | succ depth ih => exact Discipline.alike_step ih (fun _ _ _ _ _ _ => obeys_body) rounds

end noReturns

/-- If return statements stand in bodies of functions only, no run of the source ends with a return,
and the block of a try statement outside of functions never ends with one, so that its catch clause
sees none. A call whose function and arguments have values never ends with a return, in any program
and on any machine. -/
theorem returns_contained :
    (∀ source t, parse source = .ok t → t.ReturnsInFunctions →
      (∀ m m' v, runSource source m ≠ .error (.returned v) m') ∧
      ∀ ns name clause last, Part outerChildren (.trying ns name clause last) t →
        ∀ rounds depth scope m m' v,
        block (eval rounds depth) scope .null ns m ≠ .error (.returned v) m') ∧
    ∀ rounds depth f xs scope m m₁ m₂ g args, eval rounds depth f scope m = .ok g m₁ →
      all (eval rounds depth) scope xs m₁ = .ok args m₂ → ∀ m' v,
        eval rounds (depth + 1) (.call f xs) scope m ≠ .error (.returned v) m' := by
  refine ⟨fun source t hparse ht => ⟨?_, ?_⟩, ?_⟩
  · rw [runSource_of_parse hparse]
    exact noReturns.not_returned (noReturns.alike_eval _ _ t ht _ 0 trivial)
  · intro ns name clause last htry rounds depth scope
    have hblock : ∀ n ∈ ns, noReturns.node n := fun n hn =>
      (ht.within htry).part (List.mem_append_left _ hn)
    exact noReturns.not_returned
      (Discipline.keeps_block (noReturns.alike_eval rounds depth) trivial hblock Value.holding_null)
  · -- the signals of the function and its arguments are excluded, so only the call itself is left
    intro rounds depth f xs scope m m₁ m₂ g args hf hxs m' v
    have hcall :
        eval rounds (depth + 1) (.call f xs) scope m = call (eval rounds depth) g args m₂ :=
      (Run.bind_ok hf).trans (Run.bind_ok hxs)
    rw [hcall]
    exact noReturns.not_returned (noReturns.obeys_call scope g args) m₂ m' v

/-- A function that returns, called in a try statement with a catch clause. -/
def callingReturn : String := "f = (x) => x\ntry f(1) catch e e"

def callingReturnTokens : List Token :=
  [⟨.identifier, .text "f", ⟨1, 1⟩⟩, ⟨.assign, .text "=", ⟨1, 3⟩⟩, ⟨.lparen, .text "(", ⟨1, 5⟩⟩,
    ⟨.identifier, .text "x", ⟨1, 6⟩⟩, ⟨.rparen, .text ")", ⟨1, 7⟩⟩, ⟨.arrow, .text "=>", ⟨1, 9⟩⟩,
    ⟨.identifier, .text "x", ⟨1, 12⟩⟩, ⟨.newline, .text "\n", ⟨1, 13⟩⟩,
    ⟨.tryWord, .text "try", ⟨2, 1⟩⟩, ⟨.identifier, .text "f", ⟨2, 5⟩⟩, ⟨.lparen, .text "(", ⟨2, 6⟩⟩,
    ⟨.number, .int 1, ⟨2, 7⟩⟩, ⟨.rparen, .text ")", ⟨2, 8⟩⟩, ⟨.catchWord, .text "catch", ⟨2, 10⟩⟩,
    ⟨.identifier, .text "e", ⟨2, 16⟩⟩, ⟨.identifier, .text "e", ⟨2, 18⟩⟩, ⟨.eof, .null, ⟨2, 19⟩⟩]

def callingReturnTree : Node := .program
  [.assignment "f" (.function none ["x"] [.returning (some (.identifier "x"))] false),
    .trying [.call (.identifier "f") [.number (.int 1)]] (some "e") (some [.identifier "e"]) none]

theorem callingReturn_contained :
    parse callingReturn = .ok callingReturnTree ∧ callingReturnTree.ReturnsInFunctions ∧
      (∀ m' v, runSource callingReturn .initial ≠ .error (.returned v) m') ∧
      ∀ rounds depth scope m m' v, block (eval rounds depth) scope .null
        [.call (.identifier "f") [.number (.int 1)]] m ≠
        .error (.returned v) m' := by
  have htokens : Scanner.tokensFrom? 24 ⟨1, 1⟩ callingReturn.toList = some callingReturnTokens :=
    rfl
  have hparse : parse callingReturn = .ok callingReturnTree := parse_of_tokens htokens rfl
  have hreturns : callingReturnTree.ReturnsInFunctions := by
    simp only [callingReturnTree, Node.ReturnsInFunctions]
    repeat' first
      | exact List.forall_mem_nil _
      | refine List.forall_mem_cons.mpr ⟨?_, ?_⟩
      | refine Node.everywhere_iff.mpr ⟨nofun, ?_⟩
  obtain ⟨hrun, htry⟩ := returns_contained.1 _ _ hparse hreturns
  refine ⟨hparse, hreturns, hrun _, htry _ (some "e") (some [.identifier "e"]) none ?_⟩
  exact .inner (List.mem_cons_of_mem _ List.mem_cons_self) .self

end FloScript
