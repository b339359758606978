/-! The program of the workload of functions. -/
namespace FloScript.Workload.Source

/-- Lines of a program, with an empty one before them. -/
def lines (ls : List String) : String := "\n" ++ "\n".intercalate ls ++ "\n"

/-- Functions; the first call is that of `fib` for `n`. -/
def functions (n : Int) : String := lines
  ["func fib(n) \x7b",
   "    if n <= 1 => return n",
   "    return fib(n - 1) + fib(n - 2)",
   "\x7d",
   "func add(a, b) => a + b",
   "func noargs() \x7b",
   "    return",
   "\x7d",
   "mul = (x, y) => x * y",
   "thunk = => 42",
   "@route(\"/path\", 1)",
   "@other",
   "func handler(req) \x7b",
   "    return req",
   "\x7d",
   "@bare",
   "r1 = fib(" ++ toString n ++ ")",
   "r2 = add(3.5, 4.5)",
   "r3 = mul(6, 7)",
   "r4 = thunk()",
   "r5 = handler(\"ok\")",
   "noargs()",
   "r1 + r2 + r3 + r4"]

end FloScript.Workload.Source
