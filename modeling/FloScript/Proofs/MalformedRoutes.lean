import FloScript.Proofs.Responses

/-! Routes whose patterns cannot be read. A pattern is read when a request comes to it, so a
malformed one does no harm to the requests that a route before it answers, and ends every other
request with its fault. -/
namespace FloScript

namespace Route

variable {α β : Type} {rs : List (Registration α)} {r : Registration α} {t : Table α}
  {p method path : String} {e : Fault} {g : String → Option α} {q : Pattern.Named}

/-- The handler of a pattern, with the parameters that it matched; `g` says which handler each
pattern has. -/
def offer? (g : String → Option α) (path pattern : String) : Option (α × Parameters) := do
  let ps ← matched? pattern path
  let h ← g pattern
  return (h, ps)

/-- What a request comes to at a pattern: its fault, or what it offers, if anything. -/
def verdict? (g : String → Option α) (path pattern : String) :
    Option (Except Fault (α × Parameters)) :=
  match Pattern.read pattern with
  | .error e => some (.error e)
  | .ok _ => (offer? g path pattern).map .ok

/-- What a search has come to; a fault has ended it. -/
def settle : Option (Except Fault β) → Except Fault (Option β)
  | none => .ok none
  | some found => found.map some

/-- Whether the pattern of a registration can be read. -/
def Registration.isWellFormed (r : Registration α) : Bool := (Pattern.read r.pattern).isOk

/-- Whether a request finds a handler at the pattern of a registration. -/
def Answers (rs : List (Registration α)) (method path : String) (r : Registration α) : Prop :=
  (matched? r.pattern path).isSome = true ∧ (lastHandler? rs r.pattern method).isSome = true

/-- A request comes to a pattern that cannot be read: no pattern before it answers. -/
def Blocked (rs : List (Registration α)) (method path : String) (e : Fault) : Prop :=
  ∃ before r after, rs = before ++ r :: after ∧ Pattern.read r.pattern = .error e ∧
    ∀ r' ∈ before, r'.isWellFormed = true ∧ ¬ Answers rs method path r'

section Verdicts

theorem isWellFormed_of_ok (h : Pattern.read r.pattern = .ok q) : r.isWellFormed = true := by
  rw [Registration.isWellFormed, h]
  rfl

theorem isWellFormed_of_error (h : Pattern.read r.pattern = .error e) : r.isWellFormed = false := by
  rw [Registration.isWellFormed, h]
  rfl

theorem verdict?_of_error (h : Pattern.read p = .error e) :
    verdict? g path p = some (.error e) := by
  simp only [verdict?, h]

theorem verdict?_of_ok (h : Pattern.read p = .ok q) :
    verdict? g path p = (offer? g path p).map .ok := by
  simp only [verdict?, h]

theorem offer?_of_error (h : Pattern.read p = .error e) : offer? g path p = none := by
  have hmatched : matched? p path = none := by
    rw [matched?, h]
    rfl
  simp only [offer?, hmatched]
  rfl

theorem offer?_eq_none_iff :
    offer? (lastHandler? rs · method) path r.pattern = none ↔ ¬ Answers rs method path r := by
  simp only [offer?, Answers]
  cases matched? r.pattern path with
  | none => simp
  | some ps =>
    cases lastHandler? rs r.pattern method with
    | none => simp
    | some h => simp

theorem verdict?_eq_error_iff :
    verdict? g path p = some (.error e) ↔ Pattern.read p = .error e := by
  constructor
  · intro h
    cases hread : Pattern.read p with
    | error e' =>
      rw [verdict?_of_error hread] at h
      cases h
      rfl
    | ok q =>
      rw [verdict?_of_ok hread] at h
      obtain ⟨_, _, hne⟩ := Option.map_eq_some_iff.mp h
      cases hne
  · exact verdict?_of_error

theorem verdict?_eq_none_iff :
    verdict? (lastHandler? rs · method) path r.pattern = none ↔
      r.isWellFormed = true ∧ ¬ Answers rs method path r := by
  cases hread : Pattern.read r.pattern with
  | error e => simp [verdict?_of_error hread, isWellFormed_of_error hread]
  | ok q => simp [verdict?_of_ok hread, offer?_eq_none_iff, isWellFormed_of_ok hread]

end Verdicts

section Scan

/-- A table gives what the first pattern gives that gives anything. -/
theorem Table.find_eq_settle (hg : ∀ e ∈ t, e.2.lookup method = g e.1) :
    t.find method path = settle (t.patterns.findSome? (verdict? g path)) := by
  induction t with
  | nil => rfl
  | cons entry t ih =>
    obtain ⟨k, ms⟩ := entry
    have hrest := ih fun e he => hg e (List.mem_cons_of_mem _ he)
    have hms : ms.lookup method = g k := hg (k, ms) (by simp)
    have hcons : Table.patterns ((k, ms) :: t) = k :: Table.patterns t := rfl
    rw [Table.find, hcons, List.findSome?_cons]
    cases hread : Pattern.read k with
    | error e =>
      rw [verdict?_of_error hread]
      rfl
    | ok q =>
      have hmatched : matched? k path = q.match? path := by
        rw [matched?, hread]
        rfl
      simp only [verdict?_of_ok hread, offer?, hmatched, Json.ok_bind, hms]
      cases q.match? path with
      | none => exact hrest
      | some ps =>
        cases g k with
        | none => exact hrest
        | some h => rfl

theorem Table.Records.find_eq_settle (ht : t.Records rs) (method path : String) :
    t.find method path =
      settle (rs.findSome? fun r => verdict? (lastHandler? rs · method) path r.pattern) := by
  have hlookup : ∀ e ∈ t, e.2.lookup method = lastHandler? rs e.1 method := by
    intro e he
    rw [← ht.last, Table.handler?, Table.lookup_of_mem ht.distinct he, Option.bind_some]
  rw [Table.find_eq_settle (g := (lastHandler? rs · method)) hlookup, ht.first]

theorem blocked_iff :
    Blocked rs method path e ↔
      (rs.findSome? fun r => verdict? (lastHandler? rs · method) path r.pattern) =
        some (.error e) := by
  rw [List.findSome?_eq_some_iff]
  constructor
  · rintro ⟨before, r, after, hrs, hread, hbefore⟩
    exact ⟨before, r, after, hrs, verdict?_of_error hread, fun r' hr' =>
      verdict?_eq_none_iff.mpr (hbefore r' hr')⟩
  · rintro ⟨before, r, after, hrs, hverdict, hbefore⟩
    exact ⟨before, r, after, hrs, verdict?_eq_error_iff.mp hverdict,
      fun r' hr' => verdict?_eq_none_iff.mp (hbefore r' hr')⟩

/-- What the verdicts come to and what the patterns offer are the same as long as no fault ends the
search. -/
theorem findSome?_verdict? (g : String → Option α)
    (h : ∀ e, (rs.findSome? fun r => verdict? g path r.pattern) ≠ some (.error e)) :
    (rs.findSome? fun r => verdict? g path r.pattern) =
      (rs.findSome? fun r => offer? g path r.pattern).map .ok := by
  induction rs with
  | nil => rfl
  | cons r rs ih =>
    simp only [List.findSome?_cons] at h ⊢
    cases hread : Pattern.read r.pattern with
    | error e => exact absurd (by rw [verdict?_of_error hread]) (h e)
    | ok q =>
      rw [verdict?_of_ok hread] at h ⊢
      cases hoffer : offer? g path r.pattern with
      | some found => rfl
      | none =>
        rw [hoffer] at h
        exact ih h

/-- A request that comes to a malformed pattern fails with its fault; any other is answered as
`chosen?` says. -/
theorem Table.Records.find_of_blocked (ht : t.Records rs) (h : Blocked rs method path e) :
    t.find method path = .error e := by
  rw [ht.find_eq_settle, blocked_iff.mp h]
  rfl

theorem Table.Records.find_of_not_blocked (ht : t.Records rs)
    (h : ∀ e, ¬ Blocked rs method path e) :
    t.find method path = .ok (chosen? rs method path) := by
  have hscan := findSome?_verdict? (lastHandler? rs · method) fun e he => h e (blocked_iff.mpr he)
  have hchosen :
      chosen? rs method path = rs.findSome? fun r =>
        offer? (lastHandler? rs · method) path r.pattern := rfl
  rw [ht.find_eq_settle, hscan, hchosen]
  cases rs.findSome? fun r => offer? (lastHandler? rs · method) path r.pattern with
  | none => rfl
  | some found => rfl

theorem not_blocked_of_forall (h : ∀ r ∈ rs, r.isWellFormed = true) (e : Fault) :
    ¬ Blocked rs method path e := by
  rintro ⟨before, r, after, rfl, hread, -⟩
  have hr := h r (by simp)
  rw [isWellFormed_of_error hread] at hr
  cases hr

theorem lastHandler?_filter (hr : r.isWellFormed = true) :
    lastHandler? (rs.filter Registration.isWellFormed) r.pattern method =
      lastHandler? rs r.pattern method := by
  have hsame :
      (fun r' : Registration α =>
          decide (r'.isWellFormed = true ∧ r'.isFor r.pattern method = true)) =
        fun r' => r'.isFor r.pattern method := by
    funext r'
    by_cases hfor : r'.pattern = r.pattern
    · have hwell : r'.isWellFormed = true := by rwa [Registration.isWellFormed, hfor]
      simp [hwell]
    · simp [Registration.isFor, hfor]
  rw [lastHandler?, lastHandler?, ← List.filter_reverse, List.find?_filter, hsame]

/-- Malformed patterns make no difference to what is chosen. -/
theorem chosen?_filter (rs : List (Registration α)) (method path : String) :
    chosen? (rs.filter Registration.isWellFormed) method path = chosen? rs method path := by
  have hskip : ∀ l : List (Registration α),
      ((l.filter Registration.isWellFormed).findSome? fun r =>
        offer? (lastHandler? (rs.filter Registration.isWellFormed) · method) path r.pattern) =
      l.findSome? fun r => offer? (lastHandler? rs · method) path r.pattern := by
    intro l
    induction l with
    | nil => rfl
    | cons r l ih =>
      cases hread : Pattern.read r.pattern with
      | ok q =>
        have hr := isWellFormed_of_ok hread
        have hoffer :
            offer? (lastHandler? (rs.filter Registration.isWellFormed) · method) path r.pattern =
              offer? (lastHandler? rs · method) path r.pattern := by
          simp only [offer?, lastHandler?_filter hr]
        rw [List.filter_cons_of_pos hr, List.findSome?_cons, List.findSome?_cons, hoffer, ih]
      | error e =>
        rw [List.filter_cons_of_neg (by simp [isWellFormed_of_error hread]), List.findSome?_cons,
          offer?_of_error hread, ih]
  exact hskip rs

end Scan

end Route

namespace Server

variable {o : Outcome} {t : Route.Table Handler} {method path : String} {e : Fault}

theorem handle_failed (h : t.find method path = .error e) :
    handle t method path = ⟨[], "", some e⟩ := by
  rw [handle, h]

/-- A handler that can be answered gets at least a status. -/
theorem calls_ofOutcome_ne_nil (h : o.isAnswerable = true) : (Exchange.ofOutcome o).calls ≠ [] := by
  by_cases hw : ∃ v e, o.ending = .ok v ∧ Unwritable o.machine.scopes v e
  · obtain ⟨v, e, hv, hu⟩ := hw
    obtain ⟨kind, s, hanswer, -⟩ := exists_answer hv hu
    simp [Exchange.ofOutcome, hanswer, opening]
  · obtain ⟨code, headers, body, hcalls⟩ := isResponse_answer h fun v e hv hu => hw ⟨v, e, hv, hu⟩
    simp [Exchange.ofOutcome, hcalls]

/-- A fault is left over only where a handler ends with the return of a value that has no text. -/
theorem escaped_ofOutcome_iff (h : o.isAnswerable = true) :
    (Exchange.ofOutcome o).escaped = none ↔
      ∀ v, o.ending = .error (.returned v) → ∃ s, v.display o.machine.scopes = .ok s := by
  have hrecover : ∀ calls message, (recover calls (.ok message)).2 = none := by
    intro calls message
    obtain ⟨s, hs, -⟩ := exists_answerError message
    simp only [recover, hs]
  obtain ⟨ending, m⟩ := o
  cases ending with
  | ok v =>
    refine iff_of_true ?_ fun v h => by cases h
    simp only [Exchange.ofOutcome, answer]
    cases hvalue : answerValue m.scopes v with
    | mk calls escaped =>
      cases escaped with
      | none => rfl
      | some e => exact hrecover calls e.message
  | error s =>
    cases s with
    | fault e =>
      refine iff_of_true ?_ fun v h => by cases h
      have hordinary : e.isOrdinary = true := h
      simp only [Exchange.ofOutcome, answer, if_pos hordinary]
      exact hrecover [] e.message
    | returned v =>
      simp only [Exchange.ofOutcome, answer]
      cases hdisplay : v.display m.scopes with
      | ok s =>
        refine iff_of_true (hrecover [] s) ?_
        rintro v' ⟨⟩
        exact ⟨s, hdisplay⟩
      | error e =>
        refine iff_of_false (by simp [recover, answerError, withBody, bind, Except.bind]) ?_
        intro h
        obtain ⟨s, hs⟩ := h v rfl
        rw [hdisplay] at hs
        cases hs
    | unfinished => cases h

end Server

namespace Application

open Route (Registration chosen? Blocked)

/-- The actions without the registrations whose patterns cannot be read. -/
def wellFormed (as : List Action) : List Action :=
  as.filter fun
    | .register r => r.isWellFormed
    | .listen .. => true

variable {as : List Action} {method path : String} {e : Fault}

theorem registrations_wellFormed (as : List Action) :
    registrations (wellFormed as) = (registrations as).filter Registration.isWellFormed := by
  induction as with
  | nil => rfl
  | cons a as ih =>
    cases a with
    | register r =>
      by_cases hr : r.isWellFormed = true
      · simpa [wellFormed, registrations, hr] using ih
      · simpa [wellFormed, registrations, hr] using ih
    | listen port interrupt => simpa [wellFormed, registrations] using ih

theorem request_of_listen (h : ∃ port interrupt, .listen port interrupt ∈ as)
    (method path : String) :
    (after as).request method path = Server.handle (after as).routes method path := by
  have hvisible : (after as).visible = (after as).routes := if_pos (listening_foldl (.inr h))
  rw [request, hvisible]

theorem request_of_blocked (hlisten : ∃ port interrupt, .listen port interrupt ∈ as)
    (h : Blocked (registrations as) method path e) :
    (after as).request method path = ⟨[], "", some e⟩ := by
  rw [request_of_listen hlisten]
  exact Server.handle_failed ((records_after as).find_of_blocked h)

/-- What a request gives if the scan has come to this. -/
def reply : Option (Handler × Route.Parameters) → Server.Exchange
  | some (h, ps) => .ofOutcome (h.call ps)
  | none => .notFound

theorem request_of_not_blocked (hlisten : ∃ port interrupt, .listen port interrupt ∈ as)
    (h : ∀ e, ¬ Blocked (registrations as) method path e) :
    (after as).request method path = reply (chosen? (registrations as) method path) := by
  have hfind := (records_after as).find_of_not_blocked h
  rw [request_of_listen hlisten]
  cases hchosen : chosen? (registrations as) method path with
  | none =>
    rw [hchosen] at hfind
    exact Server.handle_missing hfind
  | some found =>
    rw [hchosen] at hfind
    exact Server.handle_found hfind

/-- Where no pattern is malformed, nothing stands in the way. -/
theorem request_wellFormed (hlisten : ∃ port interrupt, .listen port interrupt ∈ as)
    (method path : String) :
    (after (wellFormed as)).request method path =
      reply (chosen? (registrations as) method path) := by
  have hlisten' : ∃ port interrupt, .listen port interrupt ∈ wellFormed as := by
    obtain ⟨port, interrupt, h⟩ := hlisten
    exact ⟨port, interrupt, List.mem_filter.mpr ⟨h, rfl⟩⟩
  have hwell : ∀ e, ¬ Blocked (registrations (wellFormed as)) method path e := by
    refine Route.not_blocked_of_forall fun r hr => ?_
    rw [registrations_wellFormed] at hr
    exact (List.mem_filter.mp hr).2
  rw [request_of_not_blocked hlisten' hwell, registrations_wellFormed, Route.chosen?_filter]

theorem calls_reply_ne_nil {found : Option (Handler × Route.Parameters)}
    (h : ∀ handler ps, found = some (handler, ps) → (handler.call ps).isAnswerable = true) :
    (reply found).calls ≠ [] := by
  cases found with
  | none => simp [reply, Server.Exchange.notFound]
  | some found => exact Server.calls_ofOutcome_ne_nil (h found.1 found.2 rfl)

/-- Whatever is registered, in whatever order, a request that comes to a malformed pattern gets no
answer at all, and the fault of that pattern is left over. Every other request is answered as if no
malformed pattern had been registered, and only then. So nothing is left over exactly if the request
comes to no malformed pattern and the handler that answers does not end with the return of a value
that has no text. -/
theorem request_unless_blocked (as : List Action)
    (hlisten : ∃ port interrupt, .listen port interrupt ∈ as) (method path : String)
    (hends : ∀ h ps, chosen? (registrations as) method path = some (h, ps) →
      (h.call ps).isAnswerable = true) :
    (∀ e, Blocked (registrations as) method path e →
      (after as).request method path = ⟨[], "", some e⟩) ∧
    ((after as).request method path = (after (wellFormed as)).request method path ↔
      ∀ e, ¬ Blocked (registrations as) method path e) ∧
    (∀ h ps, chosen? (registrations (wellFormed as)) method path = some (h, ps) →
      ((after as).request method path = .ofOutcome (h.call ps) ↔
        ∀ e, ¬ Blocked (registrations as) method path e)) ∧
    (((after as).request method path).escaped = none ↔
      (∀ e, ¬ Blocked (registrations as) method path e) ∧
      ∀ h ps v, chosen? (registrations as) method path = some (h, ps) →
        (h.call ps).ending = .error (.returned v) →
          ∃ s, v.display (h.call ps).machine.scopes = .ok s) := by
  have hwell := request_wellFormed hlisten method path
  have hsame : (after as).request method path = (after (wellFormed as)).request method path ↔
      ∀ e, ¬ Blocked (registrations as) method path e := by
    rw [hwell]
    constructor
    · -- an answer has calls, a request that is blocked has none
      intro h e hblocked
      rw [request_of_blocked hlisten hblocked] at h
      exact calls_reply_ne_nil hends (by rw [← h])
    · exact request_of_not_blocked hlisten
  refine ⟨fun e => request_of_blocked hlisten, hsame, fun h ps hchosen => ?_, ?_⟩
  · rw [registrations_wellFormed, Route.chosen?_filter] at hchosen
    rw [← hsame, hwell, hchosen]
    rfl
  · by_cases hblocked : ∃ e, Blocked (registrations as) method path e
    · obtain ⟨e, he⟩ := hblocked
      rw [request_of_blocked hlisten he]
      exact iff_of_false (by simp) fun h => h.1 e he
    · have hnot : ∀ e, ¬ Blocked (registrations as) method path e := fun e he => hblocked ⟨e, he⟩
      rw [request_of_not_blocked hlisten hnot]
      cases hchosen : chosen? (registrations as) method path with
      | none => exact iff_of_true rfl ⟨hnot, fun h ps v hsome => by cases hsome⟩
      | some found =>
        obtain ⟨h, ps⟩ := found
        refine (Server.escaped_ofOutcome_iff (hends h ps hchosen)).trans
          ⟨fun hv => ⟨hnot, ?_⟩, fun hv v => ?_⟩
        · rintro h' ps' v ⟨⟩
          exact hv v
        · exact hv.2 h ps v rfl

/-- A path with a parenthesis is registered before the path that is asked for. -/
def unclosed : List Action :=
  [.register ⟨"/(", "GET", .giving (.int 1)⟩, .register ⟨"/ok", "GET", .giving (.text "fine")⟩,
    .listen 80 false]

theorem request_unclosed : chosen? (registrations (wellFormed unclosed)) "GET" "/ok" =
      some (.giving (.text "fine"), []) ∧
    ∃ e, (after unclosed).request "GET" "/ok" = ⟨[], "", some e⟩ ∧
      (after unclosed).request "GET" "/ok" ≠ .ofOutcome ⟨.ok (.text "fine"), .initial⟩ := by
  have hbad : (Pattern.read (Route.pattern "/(")).isOk = false := by decide +kernel
  have hmatched : Route.matched? (Route.pattern "/ok") "/ok" = some [] := by decide +kernel
  have hget : Text.toCapital "GET" = "GET" := by decide +kernel
  obtain ⟨e, he⟩ : ∃ e, Pattern.read (Route.pattern "/(") = .error e := by
    cases hread : Pattern.read (Route.pattern "/(") with
    | ok q =>
      rw [hread] at hbad
      cases hbad
    | error e => exact ⟨e, rfl⟩
  have hnone : Route.matched? (Route.pattern "/(") "/ok" = none := by
    rw [Route.matched?, he]
    rfl
  have hchosen :
      chosen? (registrations unclosed) "GET" "/ok" = some (.giving (.text "fine"), []) := by
    simp [chosen?, registrations, unclosed, Registration.pattern, hnone,
      hmatched, Route.lastHandler?, Registration.isFor, Registration.verb, hget]
  have hblocked : Blocked (registrations unclosed) "GET" "/ok" e := ⟨[], _, _, rfl, he, by simp⟩
  have hends : ∀ h ps, chosen? (registrations unclosed) "GET" "/ok" = some (h, ps) →
      (h.call ps).isAnswerable = true := by
    intro h ps hsome
    rw [hchosen] at hsome
    cases hsome
    rfl
  have hwell :
      chosen? (registrations (wellFormed unclosed)) "GET" "/ok" =
        some (.giving (.text "fine"), []) := by
    rw [registrations_wellFormed, Route.chosen?_filter, hchosen]
  obtain ⟨hfault, -, hroute, -⟩ :=
    request_unless_blocked unclosed ⟨80, false, by simp [unclosed]⟩ "GET" "/ok" hends
  exact ⟨hwell, e, hfault e hblocked, fun h => (hroute _ _ hwell).mp h e hblocked⟩

end Application
end FloScript
