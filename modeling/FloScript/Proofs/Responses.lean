import FloScript.Proofs.JsonRoundTrip
import FloScript.Proofs.Routing

/-! How many responses a request gets. The calls before a body are made before its text is worked
out, so one response is given exactly if the text can be written; if it cannot, the answer to the
fault follows as a second response. -/
namespace FloScript

/-- Whether a handler ended with a value, or with a fault that can be answered. -/
def Outcome.isAnswerable (o : Outcome) : Bool :=
  match o.ending with
  | .ok _ | .error (.returned _) => true
  | .error (.fault e) => e.isOrdinary
  | .error .unfinished => false

/-- Patterns that can be read give an answer, be it that there is no handler. -/
theorem Route.Table.exists_find {α : Type} {t : Route.Table α}
    (hread : ∀ p ∈ t.patterns, ∃ q, Pattern.read p = .ok q) (method path : String) :
    ∃ found, t.find method path = .ok found := by
  induction t with
  | nil => exact ⟨none, rfl⟩
  | cons e t ih =>
    obtain ⟨k, ms⟩ := e
    obtain ⟨q, hq⟩ := hread k (by simp [patterns])
    have hrest := ih fun p hp => hread p (List.mem_cons_of_mem k hp)
    rw [find, hq, Json.ok_bind]
    split
    · exact ⟨_, rfl⟩
    · exact hrest

namespace Server

variable {o : Outcome} {ss : Scopes} {v : Value} {e : Fault} {calls : List Call}

/-- One response: a status, headers, the end of the headers, and at most one body. -/
def IsResponse (calls : List Call) : Prop :=
  ∃ (code : Value) (headers : List (String × String)) (body : Option String),
    calls = .status code ::
      ((headers.map fun h => .header h.1 h.2) ++ .endHeaders :: body.toList.map .body)

/-- The text that is sent for a value cannot be written. A text is sent as it is, and an integer or
a boolean is a status without a body. -/
def Unwritable (ss : Scopes) (v : Value) (e : Fault) : Prop :=
  match v with
  | .dict _ | .bindings _ => Json.write ss v .null = .error e
  | .text _ | .int _ | .bool _ => False
  | v => v.display ss = .error e

theorem IsResponse.status_notMem_tail (h : IsResponse calls) (code : Value) :
    .status code ∉ calls.tail := by
  obtain ⟨_, headers, body, rfl⟩ := h
  simp

theorem isResponse_withBody (code : Int) (kind : String) (text : Except Fault String) :
    IsResponse (withBody (opening code kind) text).1 := by
  cases text with
  | ok s => exact ⟨.int code, [("Content-Type", kind)], some s, rfl⟩
  | error e => exact ⟨.int code, [("Content-Type", kind)], none, rfl⟩

/-- The message of an error can always be written. -/
theorem exists_answerError (message : String) :
    ∃ s, answerError (.ok message) = (opening 500 "application/json" ++ [.body s], none) ∧
      Json.read s = .ok (.dict [(.text "error", .text message)]) := by
  have hstorable :
      Json.Storable Json.depthLimit (.dict (Bindings.entries [("error", .text message)])) :=
    .dict (by simp) fun e he => by
      obtain rfl := List.mem_singleton.mp he
      exact .text message
  have hback : Json.ReadBack _ (Json.write #[] _ .null) Json.read :=
    hstorable.readBack rfl (by simp)
  obtain ⟨s, hs, -, hread⟩ := hback
  have hwrite : Json.write #[] (.dict [(.text "error", .text message)]) .null = .ok s := hs
  refine ⟨s, ?_, hread⟩
  rw [answerError, Json.ok_bind, hwrite]
  rfl

theorem exists_answerValue_of_unwritable (h : Unwritable ss v e) :
    ∃ kind, answerValue ss v = (opening 200 kind, some e) := by
  cases v with
  | text _ | int _ | bool _ => exact h.elim
  | dict es => exact ⟨"application/json", congrArg (withBody (opening 200 "application/json")) h⟩
  | bindings id =>
    exact ⟨"application/json", congrArg (withBody (opening 200 "application/json")) h⟩
  | _ => exact ⟨"text/plain", congrArg (withBody (opening 200 "text/plain")) h⟩

/-- A value whose text can be written is answered by one response. -/
theorem exists_answerValue (h : ∀ e, ¬ Unwritable ss v e) :
    ∃ calls, answerValue ss v = (calls, none) ∧ IsResponse calls := by
  have hbody : ∀ (kind : String) (text : Except Fault String), (∀ e, text ≠ .error e) →
      ∃ calls, withBody (opening 200 kind) text = (calls, none) ∧ IsResponse calls := by
    intro kind text htext
    cases text with
    | ok s => exact ⟨_, rfl, isResponse_withBody 200 kind (.ok s)⟩
    | error e => exact absurd rfl (htext e)
  cases v with
  | text s => exact hbody "text/plain" (.ok s) (by simp)
  | int i => exact ⟨_, rfl, .int i, [], none, rfl⟩
  | bool b => exact ⟨_, rfl, .bool b, [], none, rfl⟩
  | dict es => exact hbody "application/json" _ h
  | bindings id => exact hbody "application/json" _ h
  | _ => exact hbody "text/plain" _ h

theorem isResponse_answer (ho : o.isAnswerable = true)
    (hw : ∀ v e, o.ending = .ok v → ¬ Unwritable o.machine.scopes v e) :
    IsResponse (answer o).1 := by
  have herror : ∀ message, IsResponse (recover [] message).1 := fun _ => isResponse_withBody ..
  obtain ⟨ending, m⟩ := o
  cases ending with
  | ok v =>
    obtain ⟨calls, hcalls, hresponse⟩ := exists_answerValue fun e => hw v e rfl
    simp only [answer, hcalls]
    exact hresponse
  | error s =>
    cases s with
    | fault e =>
      simp only [answer, if_pos (show e.isOrdinary = true from ho)]
      exact herror _
    | returned v => exact herror _
    | unfinished => cases ho

/-- A value whose text cannot be written: its response is left without a body, and the answer to the
fault comes after it. -/
theorem exists_answer (hv : o.ending = .ok v) (hu : Unwritable o.machine.scopes v e) :
    ∃ kind s, answer o = (opening 200 kind ++ (opening 500 "application/json" ++ [.body s]), none) ∧
      Json.read s = .ok (.dict [(.text "error", .text e.message)]) := by
  obtain ⟨kind, hkind⟩ := exists_answerValue_of_unwritable hu
  obtain ⟨s, hs, hread⟩ := exists_answerError e.message
  refine ⟨kind, s, ?_, hread⟩
  simp only [answer, hv, hkind, recover, hs]

theorem not_unwritable_of_storable (h : Json.Storable Json.depthLimit v) (hv : ∃ es, v = .dict es) :
    ¬ Unwritable ss v e := by
  obtain ⟨es, rfl⟩ := hv
  have hback : Json.ReadBack _ (Json.write ss (.dict es) .null) Json.read :=
    h.readBack rfl (by simp)
  obtain ⟨s, hs, -⟩ := hback
  intro hu
  have herror : Json.write ss (.dict es) .null = .error e := hu
  rw [hs] at herror
  cases herror

/-- A handler is found for the request, and it ends so. -/
def Runs (t : Route.Table Handler) (method path : String) (o : Outcome) : Prop :=
  ∃ h ps, t.find method path = .ok (some (h, ps)) ∧ h.call ps = o

/-- Whatever the handlers give, a request gets one response, unless the text of a value cannot be
written. Then the headers of a response without a body come first, and after them a whole response
to the fault. A dict that JSON keeps can be written. -/
theorem isResponse_handle_iff (t : Route.Table Handler)
    (hread : ∀ p ∈ t.patterns, ∃ q, Pattern.read p = .ok q) (method path : String)
    (hends : ∀ o, Runs t method path o → o.isAnswerable = true) :
    (IsResponse (handle t method path).calls ↔
      ∀ o v e, Runs t method path o → o.ending = .ok v → ¬ Unwritable o.machine.scopes v e) ∧
    (∀ o v e, Runs t method path o → o.ending = .ok v → Unwritable o.machine.scopes v e →
      ∃ kind s,
        (handle t method path).calls =
          opening 200 kind ++ (opening 500 "application/json" ++ [.body s]) ∧
        Json.read s = .ok (.dict [(.text "error", .text e.message)])) ∧
    (∀ o es, Runs t method path o → o.ending = .ok (.dict es) →
      Json.Storable Json.depthLimit (.dict es) →
      IsResponse (handle t method path).calls) := by
  have hcalls : ∀ o, Runs t method path o → (handle t method path).calls = (answer o).1 := by
    rintro _ ⟨h, ps, hfind, rfl⟩
    rw [handle_found hfind]
    rfl
  have hone :
      ∀ o, Runs t method path o → (∀ v e, o.ending = .ok v → ¬ Unwritable o.machine.scopes v e) →
      IsResponse (handle t method path).calls := by
    intro o ho hw
    rw [hcalls o ho]
    exact isResponse_answer (hends o ho) hw
  refine ⟨⟨?_, ?_⟩, ?_, ?_⟩
  · -- the status of the answer to the fault is not the first call
    intro hresponse o v e ho hv hu
    obtain ⟨kind, s, hanswer, -⟩ := exists_answer hv hu
    rw [hcalls o ho, hanswer] at hresponse
    exact hresponse.status_notMem_tail (.int 500) (by simp [opening])
  · intro hw
    obtain ⟨found, hfound⟩ := Route.Table.exists_find hread method path
    cases found with
    | none =>
      rw [handle_missing hfound]
      exact ⟨.int 404, [], none, rfl⟩
    | some found =>
      have ho : Runs t method path (found.1.call found.2) := ⟨found.1, found.2, hfound, rfl⟩
      exact hone _ ho fun v e => hw _ v e ho
  · intro o v e ho hv hu
    obtain ⟨kind, s, hanswer, hs⟩ := exists_answer hv hu
    exact ⟨kind, s, by rw [hcalls o ho, hanswer], hs⟩
  · intro o es ho hv hstorable
    refine hone o ho fun v e hv' => ?_
    obtain rfl : Value.dict es = v := by simpa [hv] using hv'
    exact not_unwritable_of_storable hstorable ⟨es, rfl⟩

/-- A handler that gives a dict with a routine in it. -/
def routineHandler : Handler := .giving (.dict [(.text "f", .native .print)])

def routineTable : Route.Table Handler := [("^/$", [("GET", routineHandler)])]

/-- Whether a handler ended with a dict that cannot be written. -/
def endsUnwritten (o : Outcome) : Bool :=
  match o.ending with
  | .ok (.dict es) => !(Json.write o.machine.scopes (.dict es) .null).isOk
  | _ => false

theorem exists_unwritable (h : endsUnwritten o = true) :
    ∃ v e, o.ending = .ok v ∧ Unwritable o.machine.scopes v e := by
  unfold endsUnwritten at h
  split at h
  · next es hes =>
    cases hwrite : Json.write o.machine.scopes (.dict es) .null with
    | ok s => simp [hwrite, Except.isOk, Except.toBool] at h
    | error e => exact ⟨_, e, hes, hwrite⟩
  · cases h

theorem handle_routineTable : ¬ IsResponse (handle routineTable "GET" "/").calls ∧
    ∃ kind s, (handle routineTable "GET" "/").calls =
      opening 200 kind ++ (opening 500 "application/json" ++ [.body s]) := by
  have hread : ∀ p ∈ routineTable.patterns, ∃ q, Pattern.read p = .ok q := by
    intro p hp
    obtain rfl : p = "^/$" := List.mem_singleton.mp hp
    exact Route.exists_read (by decide +kernel)
  have hmatched : Route.matched? "^/$" "/" = some [] := by decide +kernel
  have hfind : routineTable.find "GET" "/" = .ok (some (routineHandler, [])) := by
    rw [Route.Table.find_eq (g := fun _ => some routineHandler) hread (by simp [routineTable])]
    simp [routineTable, Route.Table.patterns, hmatched]
  have hruns : ∀ o, Runs routineTable "GET" "/" o → o = routineHandler.call [] := by
    rintro _ ⟨h, ps, hf, rfl⟩
    rw [hfind] at hf
    cases hf
    rfl
  have hends : (routineHandler.call []).isAnswerable = true := by decide +kernel
  have hunwritten : endsUnwritten (routineHandler.call []) = true := by decide +kernel
  obtain ⟨v, e, hv, hu⟩ := exists_unwritable hunwritten
  have hfound : Runs routineTable "GET" "/" (routineHandler.call []) := ⟨_, _, hfind, rfl⟩
  obtain ⟨hone, htwo, -⟩ :=
    isResponse_handle_iff routineTable hread "GET" "/" fun o ho => hruns o ho ▸ hends
  obtain ⟨kind, s, hcalls, -⟩ := htwo _ v e hfound hv hu
  exact ⟨fun hresponse => hone.mp hresponse _ v e hfound hv hu, kind, s, hcalls⟩

end Server

end FloScript
