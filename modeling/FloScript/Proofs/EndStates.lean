/-! The state in which a computation ends, whether it gives a value or not. -/
namespace FloScript

variable {ε σ α β : Type}

/-- The state in which a computation ends, with a value or without one. -/
def endState (x : EStateM ε σ α) (s : σ) : σ :=
  match x s with
  | .ok _ t => t
  | .error _ t => t

theorem endState_of_ok {x : EStateM ε σ α} {s t : σ} {a : α} (h : x s = .ok a t) :
    endState x s = t := by
  simp [endState, h]

theorem endState_of_error {x : EStateM ε σ α} {s t : σ} {e : ε} (h : x s = .error e t) :
    endState x s = t := by
  simp [endState, h]

theorem endState_congr {x y : EStateM ε σ α} {s : σ} (h : x s = y s) :
    endState x s = endState y s := by
  simp only [endState, h]

theorem endState_bind_of_ok {x : EStateM ε σ α} {f : α → EStateM ε σ β} {s t : σ}
    {a : α} (h : x s = .ok a t) :
    endState (x >>= f) s = endState (f a) t := by
  simp only [endState, bind, EStateM.bind, h]

theorem endState_bind_of_error {x : EStateM ε σ α} {f : α → EStateM ε σ β} {s t : σ} {e : ε}
    (h : x s = .error e t) :
    endState (x >>= f) s = t := by
  simp only [endState, bind, EStateM.bind, h]

end FloScript
