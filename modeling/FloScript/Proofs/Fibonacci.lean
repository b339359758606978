import Mathlib.Data.Nat.Fib.Basic
import FloScript.Proofs.CallFrames
import FloScript.Proofs.ParsedTrees
import FloScript.Proofs.Sessions
import FloScript.Workload.Source

/-! The recursive function of the function workload. Each call of `fib` has a scope of its own below
the globals, so the two calls in its body keep apart, and the value of a call is a Fibonacci number.
This is shown of the machine that the workload's program leaves behind. -/
namespace FloScript.Fibonacci

open FloScript.Workload

variable {ss ss' : Scopes} {rounds d id n l : Nat} {m m' : Machine} {v : Value}

section Recursion

/-- A call of `fib` for a number less than the argument. -/
def recursion (k : Int) : Node :=
  .call (.identifier "fib") [.binary (.identifier "n") "-" (.number (.int k))]

def fibBody : List Node :=
  [.conditional (.binary (.identifier "n") "<=" (.number (.int 1)))
    [.returning (some (.identifier "n"))] none,
    .returning (some (.binary (recursion 1) "+" (recursion 2)))]

def fib : Closure := ⟨["n"], fibBody, Machine.globals, false⟩

/-- The globals have the function under its own name. -/
def Known (ss : Scopes) : Prop :=
  ∃ g l, ss[Machine.globals]? = some g ∧ g.bindings.lookup "fib" = some (.function l fib)

theorem Known.mono (h : Known ss) (hext : ss.Extends ss') : Known ss' := by
  obtain ⟨g, l, hg, hl⟩ := h
  exact ⟨g, l, hext.getElem? hg, hl⟩

/-- The scope of a call for `n`. -/
def Frame (ss : Scopes) (id n : Nat) : Prop :=
  ss[id]? = some ⟨some Machine.globals, [("n", .int n)]⟩

theorem eval_n (h : Frame m.scopes id n) :
    eval rounds (d + 1) (.identifier "n") id m = .ok (.int n) m :=
  eval_identifier (Scopes.get_own h rfl)

theorem eval_condition (rounds d : Nat) (h : Frame m.scopes id n) :
    eval rounds (d + 2) (.binary (.identifier "n") "<=" (.number (.int 1))) id m =
      .ok (.bool (n ≤ 1)) m := by
  have hle : Comparison.le.holds (compare (n : Int) 1) = decide (n ≤ 1) := by
    rw [Bool.eq_iff_iff]
    simp only [Comparison.holds, compare, compareOfLessAndEq]
    grind
  rw [eval_operator rfl (eval_n h) rfl, ← hle]
  rfl

theorem eval_recursion (rounds d : Nat) (h : Frame m.scopes id n) (hk : Known m.scopes) (k : Int) :
    ∃ l, eval rounds (d + 3) (recursion k) id m =
      Evaluator.call (eval rounds (d + 2)) (.function l fib) [.int (n - k)] m := by
  obtain ⟨g, l, hg, hl⟩ := hk
  have hname : eval rounds (d + 2) (.identifier "fib") id m = .ok (.function l fib) m :=
    eval_identifier (Scopes.get_parent h rfl rfl hg hl)
  have hargument : eval rounds (d + 2) (.binary (.identifier "n") "-" (.number (.int k))) id m =
      .ok (.int (n - k)) m := by
    rw [eval_operator rfl (eval_n h) rfl]
    rfl
  exact ⟨l, eval_call hname (Run.bind_ok hargument)⟩

theorem leaves_small (h : Frame m.scopes id n) (hn : n ≤ 1) :
    Leaves rounds (d + 3) id (.block .null fibBody) m (.int n) [] m := by
  have hcond := eval_condition rounds d h
  rw [decide_eq_true hn] at hcond
  exact .here (.conditional hcond (.here (.value rfl (eval_n h))))

theorem leaves_sum (h : Frame m.scopes id n) (hn : ¬ n ≤ 1)
    (hsum : eval rounds (d + 2) (.binary (recursion 1) "+" (recursion 2)) id m = .ok v m') :
    Leaves rounds (d + 3) id (.block .null fibBody) m v [] m' := by
  have hcond := eval_condition rounds d h
  rw [decide_eq_false hn] at hcond
  exact .later (Evaluator.step_conditional rounds hcond) (.here (.value rfl hsum))

/-- A call for `n` gives a Fibonacci number and changes no scope there was. -/
theorem call_fib (rounds : Nat) (hk : Known m.scopes) (hd : 3 * n + 3 ≤ d) :
    ∃ m', Evaluator.call (eval rounds d) (.function l fib) [.int n] m = .ok (.int (Nat.fib n)) m' ∧
      m.scopes.Extends m'.scopes := by
  -- strong induction on the argument, for all machines: the second call starts where the first one
  -- has ended
  induction n using Nat.strongRecOn generalizing m d l with
  | ind n ih =>
    have hext : m.scopes.Extends (m.entered fib [.int n]).scopes := extends_entered
    have hframe : Frame (m.entered fib [.int n]).scopes m.frame n := getElem?_frame
    have hknown : Known (m.entered fib [.int n]).scopes := hk.mono hext
    by_cases hn : n ≤ 1
    · obtain ⟨e, rfl⟩ : ∃ e, d = e + 3 := ⟨d - 3, by omega⟩
      have hfib : Nat.fib n = n := by
        obtain rfl | rfl : n = 0 ∨ n = 1 := by omega
        · exact Nat.fib_zero
        · exact Nat.fib_one
      rw [hfib]
      exact ⟨_, call_of_leaves (leaves_small hframe hn), hext⟩
    · obtain ⟨k, rfl⟩ : ∃ k, n = k + 2 := ⟨n - 2, by omega⟩
      obtain ⟨e, rfl⟩ : ∃ e, d = e + 5 := ⟨d - 5, by omega⟩
      obtain ⟨l₁, hfirst⟩ := eval_recursion rounds e hframe hknown 1
      obtain ⟨m₁, hcall₁, hext₁⟩ := ih (k + 1) (by omega) (l := l₁) hknown (show _ ≤ e + 2 by omega)
      -- the frame is still there after the first call
      obtain ⟨l₂, hsecond⟩ := eval_recursion rounds e (hext₁.getElem? hframe) (hknown.mono hext₁) 2
      obtain ⟨m₂, hcall₂, hext₂⟩ :=
        ih k (by omega) (l := l₂) (hknown.mono hext₁) (show _ ≤ e + 2 by omega)
      rw [show ((k + 2 : Nat) : Int) - 1 = (k + 1 : Nat) by omega, hcall₁] at hfirst
      rw [show ((k + 2 : Nat) : Int) - 2 = (k : Nat) by omega, hcall₂] at hsecond
      have hadd : (Nat.fib (k + 2) : Int) = Nat.fib (k + 1) + Nat.fib k := by
        rw [Nat.fib_add_two, Nat.cast_add, Int.add_comm]
      have hsum : eval rounds (e + 4) (.binary (recursion 1) "+" (recursion 2)) m.frame
          (m.entered fib [.int (k + 2 : Nat)]) = .ok (.int (Nat.fib (k + 2))) m₂ := by
        rw [eval_operator rfl hfirst hsecond, hadd]
        rfl
      exact ⟨m₂, call_of_leaves (leaves_sum hframe hn hsum), (hext.trans hext₁).trans hext₂⟩

end Recursion

section Reading

theorem toList_lines (ls : List String) :
    (Source.lines ls).toList = '\n' :: (['\n'].intercalate (ls.map String.toList) ++ ['\n']) := by
  simp [Source.lines, String.toList_intercalate]

/-- The tokens of the program, those of each line on lines of their own. -/
def tokens : List Token :=
  [⟨.newline, .text "\n", ⟨1, 1⟩⟩,
    ⟨.funcWord, .text "func", ⟨2, 1⟩⟩, ⟨.identifier, .text "fib", ⟨2, 6⟩⟩,
    ⟨.lparen, .text "(", ⟨2, 9⟩⟩, ⟨.identifier, .text "n", ⟨2, 10⟩⟩, ⟨.rparen, .text ")", ⟨2, 11⟩⟩,
    ⟨.lbrace, .text "\x7b", ⟨2, 13⟩⟩, ⟨.newline, .text "\n", ⟨2, 14⟩⟩,
    ⟨.ifWord, .text "if", ⟨3, 5⟩⟩, ⟨.identifier, .text "n", ⟨3, 8⟩⟩,
    ⟨.lessEqual, .text "<=", ⟨3, 10⟩⟩, ⟨.number, .int 1, ⟨3, 13⟩⟩, ⟨.arrow, .text "=>", ⟨3, 15⟩⟩,
    ⟨.returnWord, .text "return", ⟨3, 18⟩⟩, ⟨.identifier, .text "n", ⟨3, 25⟩⟩,
    ⟨.newline, .text "\n", ⟨3, 26⟩⟩, ⟨.returnWord, .text "return", ⟨4, 5⟩⟩,
    ⟨.identifier, .text "fib", ⟨4, 12⟩⟩, ⟨.lparen, .text "(", ⟨4, 15⟩⟩,
    ⟨.identifier, .text "n", ⟨4, 16⟩⟩, ⟨.minus, .text "-", ⟨4, 18⟩⟩, ⟨.number, .int 1, ⟨4, 20⟩⟩,
    ⟨.rparen, .text ")", ⟨4, 21⟩⟩, ⟨.plus, .text "+", ⟨4, 23⟩⟩, ⟨.identifier, .text "fib", ⟨4, 25⟩⟩,
    ⟨.lparen, .text "(", ⟨4, 28⟩⟩, ⟨.identifier, .text "n", ⟨4, 29⟩⟩, ⟨.minus, .text "-", ⟨4, 31⟩⟩,
    ⟨.number, .int 2, ⟨4, 33⟩⟩, ⟨.rparen, .text ")", ⟨4, 34⟩⟩, ⟨.newline, .text "\n", ⟨4, 35⟩⟩,
    ⟨.rbrace, .text "\x7d", ⟨5, 1⟩⟩, ⟨.newline, .text "\n", ⟨5, 2⟩⟩,
    ⟨.funcWord, .text "func", ⟨6, 1⟩⟩, ⟨.identifier, .text "add", ⟨6, 6⟩⟩,
    ⟨.lparen, .text "(", ⟨6, 9⟩⟩, ⟨.identifier, .text "a", ⟨6, 10⟩⟩, ⟨.comma, .text ",", ⟨6, 11⟩⟩,
    ⟨.identifier, .text "b", ⟨6, 13⟩⟩, ⟨.rparen, .text ")", ⟨6, 14⟩⟩, ⟨.arrow, .text "=>", ⟨6, 16⟩⟩,
    ⟨.identifier, .text "a", ⟨6, 19⟩⟩, ⟨.plus, .text "+", ⟨6, 21⟩⟩,
    ⟨.identifier, .text "b", ⟨6, 23⟩⟩, ⟨.newline, .text "\n", ⟨6, 24⟩⟩,
    ⟨.funcWord, .text "func", ⟨7, 1⟩⟩, ⟨.identifier, .text "noargs", ⟨7, 6⟩⟩,
    ⟨.lparen, .text "(", ⟨7, 12⟩⟩, ⟨.rparen, .text ")", ⟨7, 13⟩⟩, ⟨.lbrace, .text "\x7b", ⟨7, 15⟩⟩,
    ⟨.newline, .text "\n", ⟨7, 16⟩⟩, ⟨.returnWord, .text "return", ⟨8, 5⟩⟩,
    ⟨.newline, .text "\n", ⟨8, 11⟩⟩, ⟨.rbrace, .text "\x7d", ⟨9, 1⟩⟩,
    ⟨.newline, .text "\n", ⟨9, 2⟩⟩, ⟨.identifier, .text "mul", ⟨10, 1⟩⟩,
    ⟨.assign, .text "=", ⟨10, 5⟩⟩, ⟨.lparen, .text "(", ⟨10, 7⟩⟩, ⟨.identifier, .text "x", ⟨10, 8⟩⟩,
    ⟨.comma, .text ",", ⟨10, 9⟩⟩, ⟨.identifier, .text "y", ⟨10, 11⟩⟩,
    ⟨.rparen, .text ")", ⟨10, 12⟩⟩, ⟨.arrow, .text "=>", ⟨10, 14⟩⟩,
    ⟨.identifier, .text "x", ⟨10, 17⟩⟩, ⟨.multiply, .text "*", ⟨10, 19⟩⟩,
    ⟨.identifier, .text "y", ⟨10, 21⟩⟩, ⟨.newline, .text "\n", ⟨10, 22⟩⟩,
    ⟨.identifier, .text "thunk", ⟨11, 1⟩⟩, ⟨.assign, .text "=", ⟨11, 7⟩⟩,
    ⟨.arrow, .text "=>", ⟨11, 9⟩⟩, ⟨.number, .int 42, ⟨11, 12⟩⟩, ⟨.newline, .text "\n", ⟨11, 14⟩⟩,
    ⟨.atSign, .text "@", ⟨12, 1⟩⟩, ⟨.identifier, .text "route", ⟨12, 2⟩⟩,
    ⟨.lparen, .text "(", ⟨12, 7⟩⟩, ⟨.string, .text "/path", ⟨12, 8⟩⟩, ⟨.comma, .text ",", ⟨12, 15⟩⟩,
    ⟨.number, .int 1, ⟨12, 17⟩⟩, ⟨.rparen, .text ")", ⟨12, 18⟩⟩, ⟨.newline, .text "\n", ⟨12, 19⟩⟩,
    ⟨.atSign, .text "@", ⟨13, 1⟩⟩, ⟨.identifier, .text "other", ⟨13, 2⟩⟩,
    ⟨.newline, .text "\n", ⟨13, 7⟩⟩, ⟨.funcWord, .text "func", ⟨14, 1⟩⟩,
    ⟨.identifier, .text "handler", ⟨14, 6⟩⟩, ⟨.lparen, .text "(", ⟨14, 13⟩⟩,
    ⟨.identifier, .text "req", ⟨14, 14⟩⟩, ⟨.rparen, .text ")", ⟨14, 17⟩⟩,
    ⟨.lbrace, .text "\x7b", ⟨14, 19⟩⟩, ⟨.newline, .text "\n", ⟨14, 20⟩⟩,
    ⟨.returnWord, .text "return", ⟨15, 5⟩⟩, ⟨.identifier, .text "req", ⟨15, 12⟩⟩,
    ⟨.newline, .text "\n", ⟨15, 15⟩⟩, ⟨.rbrace, .text "\x7d", ⟨16, 1⟩⟩,
    ⟨.newline, .text "\n", ⟨16, 2⟩⟩, ⟨.atSign, .text "@", ⟨17, 1⟩⟩,
    ⟨.identifier, .text "bare", ⟨17, 2⟩⟩, ⟨.newline, .text "\n", ⟨17, 6⟩⟩,
    ⟨.identifier, .text "r1", ⟨18, 1⟩⟩, ⟨.assign, .text "=", ⟨18, 4⟩⟩,
    ⟨.identifier, .text "fib", ⟨18, 6⟩⟩, ⟨.lparen, .text "(", ⟨18, 9⟩⟩,
    ⟨.number, .int 12, ⟨18, 10⟩⟩, ⟨.rparen, .text ")", ⟨18, 12⟩⟩, ⟨.newline, .text "\n", ⟨18, 13⟩⟩,
    ⟨.identifier, .text "r2", ⟨19, 1⟩⟩, ⟨.assign, .text "=", ⟨19, 4⟩⟩,
    ⟨.identifier, .text "add", ⟨19, 6⟩⟩, ⟨.lparen, .text "(", ⟨19, 9⟩⟩,
    ⟨.number, .float 3.5, ⟨19, 10⟩⟩, ⟨.comma, .text ",", ⟨19, 13⟩⟩, ⟨.number, .float 4.5, ⟨19, 15⟩⟩,
    ⟨.rparen, .text ")", ⟨19, 18⟩⟩, ⟨.newline, .text "\n", ⟨19, 19⟩⟩,
    ⟨.identifier, .text "r3", ⟨20, 1⟩⟩, ⟨.assign, .text "=", ⟨20, 4⟩⟩,
    ⟨.identifier, .text "mul", ⟨20, 6⟩⟩, ⟨.lparen, .text "(", ⟨20, 9⟩⟩, ⟨.number, .int 6, ⟨20, 10⟩⟩,
    ⟨.comma, .text ",", ⟨20, 11⟩⟩, ⟨.number, .int 7, ⟨20, 13⟩⟩, ⟨.rparen, .text ")", ⟨20, 14⟩⟩,
    ⟨.newline, .text "\n", ⟨20, 15⟩⟩, ⟨.identifier, .text "r4", ⟨21, 1⟩⟩,
    ⟨.assign, .text "=", ⟨21, 4⟩⟩, ⟨.identifier, .text "thunk", ⟨21, 6⟩⟩,
    ⟨.lparen, .text "(", ⟨21, 11⟩⟩, ⟨.rparen, .text ")", ⟨21, 12⟩⟩,
    ⟨.newline, .text "\n", ⟨21, 13⟩⟩, ⟨.identifier, .text "r5", ⟨22, 1⟩⟩,
    ⟨.assign, .text "=", ⟨22, 4⟩⟩, ⟨.identifier, .text "handler", ⟨22, 6⟩⟩,
    ⟨.lparen, .text "(", ⟨22, 13⟩⟩, ⟨.string, .text "ok", ⟨22, 14⟩⟩, ⟨.rparen, .text ")", ⟨22, 18⟩⟩,
    ⟨.newline, .text "\n", ⟨22, 19⟩⟩, ⟨.identifier, .text "noargs", ⟨23, 1⟩⟩,
    ⟨.lparen, .text "(", ⟨23, 7⟩⟩, ⟨.rparen, .text ")", ⟨23, 8⟩⟩, ⟨.newline, .text "\n", ⟨23, 9⟩⟩,
    ⟨.identifier, .text "r1", ⟨24, 1⟩⟩, ⟨.plus, .text "+", ⟨24, 4⟩⟩,
    ⟨.identifier, .text "r2", ⟨24, 6⟩⟩, ⟨.plus, .text "+", ⟨24, 9⟩⟩,
    ⟨.identifier, .text "r3", ⟨24, 11⟩⟩, ⟨.plus, .text "+", ⟨24, 14⟩⟩,
    ⟨.identifier, .text "r4", ⟨24, 16⟩⟩, ⟨.newline, .text "\n", ⟨24, 18⟩⟩, ⟨.eof, .null, ⟨25, 1⟩⟩]

/-- The node that makes a function, under a name if there is one. -/
def node (name : Option String) (c : Closure) : Node := .function name c.parameters c.body c.isAsync

def adder : Closure :=
  ⟨["a", "b"], [.returning (some (.binary (.identifier "a") "+" (.identifier "b")))],
    Machine.globals, false⟩

def multiplier : Closure :=
  ⟨["x", "y"], [.returning (some (.binary (.identifier "x") "*" (.identifier "y")))],
    Machine.globals, false⟩

def idle : Closure := ⟨[], [.returning none], Machine.globals, false⟩

def constant : Closure := ⟨[], [.returning (some (.number (.int 42)))], Machine.globals, false⟩

def echo : Closure := ⟨["req"], [.returning (some (.identifier "req"))], Machine.globals, false⟩

def definitions : List Node :=
  [node (some "fib") fib, node (some "add") adder, node (some "noargs") idle,
    .assignment "mul" (node none multiplier), .assignment "thunk" (node none constant),
    .decorated
      [.decorator "route" [.string (.text "/path"), .number (.int 1)], .decorator "other" []]
      (node (some "handler") echo),
    .decorator "bare" []]

def calls : List Node :=
  [.assignment "r1" (.call (.identifier "fib") [.number (.int 12)]),
    .assignment "r2" (.call (.identifier "add") [.number (.float 3.5), .number (.float 4.5)]),
    .assignment "r3" (.call (.identifier "mul") [.number (.int 6), .number (.int 7)]),
    .assignment "r4" (.call (.identifier "thunk") []),
    .assignment "r5" (.call (.identifier "handler") [.string (.text "ok")]),
    .call (.identifier "noargs") [],
    .binary (.binary (.binary (.identifier "r1") "+" (.identifier "r2")) "+" (.identifier "r3")) "+"
      (.identifier "r4")]

theorem tokensFrom?_functions :
    Scanner.tokensFrom? 342 ⟨1, 1⟩ (Source.functions 12).toList = some tokens := by
  -- the text is taken line by line, for spelling out all of it at once takes the kernel long
  rw [Source.functions, toList_lines]
  decide +kernel

set_option maxRecDepth 20000 in
theorem programOf_tokens : programOf tokens = .ok (.program (definitions ++ calls)) := by
  rfl

end Reading

section Floats

variable {p q : Number} {x y : Float}

theorem toFloat_int {i : Int} (h : Number.ofInt? i = some x) : Number.toFloat (.int i) = .ok x := by
  simp only [Number.toFloat, h]

theorem add_float_right (hp : p.toFloat = .ok x) (y : Float) :
    Number.add p (.float y) = .ok (.float (x + y)) := by
  have hadd : Number.add p (.float y) =
      (p.toFloat >>= fun x => Number.toFloat (.float y) >>= fun y => .ok (.float (x + y))) := by
    cases p <;> rfl
  rw [hadd, hp]
  rfl

theorem add_float_left (hq : q.toFloat = .ok y) (x : Float) :
    Number.add (.float x) q = .ok (.float (x + y)) := by
  have hadd : Number.add (.float x) q =
      (Number.toFloat (.float x) >>= fun x => q.toFloat >>= fun y => .ok (.float (x + y))) := by
    cases q <;> rfl
  rw [hadd, hq]
  rfl

theorem ofNumber_float (h : x.isNaN = false) (m : Machine) :
    Run.ofNumber (.float x) m = .ok (.float x) m := by
  change (if x.isNaN = true then _ else _ : Run Value) m = _
  rw [if_neg (ne_true_of_eq_false h)]
  rfl

theorem eval_float (h : x.isNaN = false) :
    eval rounds (d + 1) (.number (.float x)) id m = .ok (.float x) m :=
  ofNumber_float h m

theorem ofNumber_sum (h : Number.add p q = .ok (.float x)) (hx : x = y)
    (hy : y.isNaN = false) (m : Machine) :
    (Run.lift (Number.add p q) >>= Run.ofNumber) m = .ok (.float y) m := by
  rw [h, hx]
  exact ofNumber_float hy m

theorem eval_plus_int {a b : Node} {i : Int} {z : Float}
    (ha : eval rounds d a id m = .ok (.float x) m) (hb : eval rounds d b id m = .ok (.int i) m)
    (hi : Number.ofInt? i = some y) (hz : x + y = z) (hnumber : z.isNaN = false) :
    eval rounds (d + 1) (.binary a "+" b) id m = .ok (.float z) m := by
  rw [eval_operator rfl ha hb]
  exact ofNumber_sum (add_float_left (toFloat_int hi) x) hz hnumber m

end Floats

section Running

/-- The functions that the definitions make, by name. -/
def functions : Bindings :=
  [("fib", .function 0 fib), ("add", .function 1 adder), ("noargs", .function 2 idle),
    ("mul", .function 3 multiplier), ("thunk", .function 4 constant), ("handler", .function 5 echo)]

/-- The globals after the definitions. -/
def library : Bindings := Machine.initial.scopes.bindingsOf Machine.globals ++ functions

theorem block_definitions (rounds d : Nat) :
    ∃ m, Evaluator.block (eval rounds (d + 2)) Machine.globals .null definitions Machine.initial =
      .ok .null m ∧
      m.Holds library := ⟨_, rfl, rfl⟩

theorem eval_fib (rounds : Nat) (hk : Known m.scopes) (hd : 3 * n + 4 ≤ d) :
    ∃ m', eval rounds d (.call (.identifier "fib") [.number (.int n)]) Machine.globals m =
      .ok (.int (Nat.fib n)) m' ∧
      m.scopes.Extends m'.scopes := by
  obtain ⟨e, rfl⟩ : ∃ e, d = e + 2 := ⟨d - 2, by omega⟩
  obtain ⟨g, l, hg, hl⟩ := id hk
  obtain ⟨m', hcall, hext⟩ := call_fib (l := l) rounds hk (show 3 * n + 3 ≤ e + 1 by omega)
  have hname :
      eval rounds (e + 1) (.identifier "fib") Machine.globals m = .ok (.function l fib) m :=
    eval_identifier (Scopes.get_own hg hl)
  exact ⟨m', (eval_call hname rfl).trans hcall, hext⟩

theorem leaves_adder :
    Leaves rounds (d + 3) m.frame (.block .null adder.body)
      (m.entered adder [.float 3.5, .float 4.5]) (.float 8) []
      (m.entered adder [.float 3.5, .float 4.5]) := by
  have hsum : (3.5 + 4.5 : Float) = 8 := by decide +kernel
  have hnumber : (8 : Float).isNaN = false := by decide +kernel
  refine .here (.value rfl ?_)
  rw [eval_operator rfl (eval_parameter rfl) (eval_parameter rfl)]
  exact ofNumber_sum (add_float_right rfl _) hsum hnumber _

theorem leaves_multiplier (i j : Int) :
    Leaves rounds (d + 3) m.frame (.block .null multiplier.body)
      (m.entered multiplier [.int i, .int j]) (.int (i * j)) []
      (m.entered multiplier [.int i, .int j]) := by
  refine .here (.value rfl ?_)
  rw [eval_operator rfl (eval_parameter rfl) (eval_parameter rfl)]
  rfl

/-- The globals after the assignments. -/
def assigned : Bindings :=
  ((((library.put "r1" (.int 144)).put "r2" (.float 8)).put "r3" (.int 42)).put "r4" (.int 42)).put
    "r5" (.text "ok")

theorem eval_total (h : m.Holds assigned) : eval rounds (d + 4)
    (.binary (.binary (.binary (.identifier "r1") "+" (.identifier "r2")) "+" (.identifier "r3"))
      "+"
      (.identifier "r4")) Machine.globals m = .ok (.float 236) m := by
  have h144 : Number.ofInt? 144 = some 144 := by decide +kernel
  have h42 : Number.ofInt? 42 = some 42 := by decide +kernel
  have hfirst : (144 + 8 : Float) = 152 := by decide +kernel
  have hsecond : (152 + 42 : Float) = 194 := by decide +kernel
  have hthird : (194 + 42 : Float) = 236 := by decide +kernel
  have h₁ :
      eval rounds (d + 2) (.binary (.identifier "r1") "+" (.identifier "r2")) Machine.globals m =
        .ok (.float 152) m := by
    rw [eval_operator rfl (h.eval_name rfl) (h.eval_name rfl)]
    exact ofNumber_sum (add_float_right (toFloat_int h144) 8) hfirst (by decide +kernel) m
  have h₂ := eval_plus_int h₁ (h.eval_name (f := "r3") rfl) h42 hsecond (by decide +kernel)
  exact eval_plus_int h₂ (h.eval_name rfl) h42 hthird (by decide +kernel)

theorem block_calls (rounds d : Nat) (h : m.Holds library) :
    ∃ m', Evaluator.block (eval rounds (d + 41)) Machine.globals .null calls m =
      .ok (.float 236) m' ∧
      m'.Holds assigned := by
  have hknown : Known m.scopes := ⟨_, 0, h, rfl⟩
  -- only this call goes deep; the depth that it takes is enough for all others
  obtain ⟨m₁, hfib, hext⟩ := eval_fib rounds hknown (show 3 * 12 + 4 ≤ d + 40 by omega)
  have hargs {m : Machine} : Evaluator.all (eval rounds (d + 39)) Machine.globals
      [.number (.float 3.5), .number (.float 4.5)] m = .ok [.float 3.5, .float 4.5] m := by
    have hfirst : (3.5 : Float).isNaN = false := by decide +kernel
    have hsecond : (4.5 : Float).isNaN = false := by decide +kernel
    exact (Run.bind_ok (eval_float hfirst)).trans (Run.bind_ok (Run.bind_ok (eval_float hsecond)))
  obtain ⟨m₁, hr₁, h₁⟩ := h.eval_assignment hfib hext "r1"
  obtain ⟨m₂, hr₂, h₂⟩ := h₁.assign_call rounds (d + 38) "r2" "add" _ rfl hargs leaves_adder
  obtain ⟨m₃, hr₃, h₃⟩ :=
    h₂.assign_call rounds (d + 38) "r3" "mul" [.number (.int 6), .number (.int 7)] rfl
      rfl (leaves_multiplier 6 7)
  obtain ⟨m₄, hr₄, h₄⟩ :=
    h₃.assign_call rounds (d + 38) "r4" "thunk" [] rfl rfl (.here (.value rfl rfl))
  obtain ⟨m₅, hr₅, h₅⟩ :=
    h₄.assign_call rounds (d + 38) "r5" "handler" [.string (.text "ok")] rfl rfl
      (.here (.value rfl (eval_parameter rfl)))
  have hidle : eval rounds (d + 41) (.call (.identifier "noargs") []) Machine.globals m₅ =
      .ok .null (m₅.entered idle []) :=
    (eval_call (h₅.eval_name rfl) rfl).trans (call_of_leaves (.here .bare))
  have h₆ : (m₅.entered idle []).Holds assigned := h₅.mono extends_entered
  refine ⟨_, ?_, h₆⟩
  exact (Run.bind_ok hr₁).trans <| (Run.bind_ok hr₂).trans <| (Run.bind_ok hr₃).trans <|
    (Run.bind_ok hr₄).trans <| (Run.bind_ok hr₅).trans <| (Run.bind_ok hidle).trans
    (Run.bind_ok (eval_total h₆))

theorem exec_functions :
    ∃ m, Machine.initial.exec (runSource (Source.functions 12)) = ⟨.ok (.float 236), m⟩ ∧
      m.Holds assigned := by
  obtain ⟨m₁, hdefinitions, h₁⟩ := block_definitions roundLimit 957
  obtain ⟨m₂, hcalls, h₂⟩ := block_calls roundLimit 918 h₁
  have hblock :
      Evaluator.block (eval roundLimit 959) Machine.globals .null
        (definitions ++ calls) Machine.initial =
      .ok (.float 236) m₂ := by
    rw [Evaluator.block_append, Run.bind_ok hdefinitions]
    exact hcalls
  have hrun : runSource (Source.functions 12) Machine.initial = .ok (.float 236) m₂ := by
    rw [runSource_of_parse (parse_of_tokens tokensFrom?_functions programOf_tokens)]
    exact hblock
  exact ⟨m₂, by rw [Machine.exec, hrun], h₂⟩

/-- The program of the function workload runs to its end. On the machine that it leaves behind, a
call of `fib` for `n` that may go deep enough gives the Fibonacci number of `n`, and all scopes
there were, the globals among them, are left as they were. -/
theorem eval_fib_eq_natFib :
    ∃ m, Machine.initial.exec (runSource (Source.functions 12)) = ⟨.ok (.float 236), m⟩ ∧
      ∀ rounds depth n : Nat, 3 * n + 4 ≤ depth →
        ∃ m', eval rounds depth (.call (.identifier "fib") [.number (.int n)]) Machine.globals m =
            .ok (.int (Nat.fib n)) m' ∧
          ∀ id < m.scopes.size, m'.scopes[id]? = m.scopes[id]? := by
  obtain ⟨m, hexec, h⟩ := exec_functions
  have hknown : Known m.scopes := ⟨_, 0, h, rfl⟩
  refine ⟨m, hexec, ?_⟩
  intro rounds depth n hdepth
  obtain ⟨m', heval, hext⟩ := eval_fib rounds hknown hdepth
  exact ⟨m', heval, hext.same⟩

end Running

end FloScript.Fibonacci
