import FloScript.Server

/-! Routing over whole runs. A table answers from the handlers as they were registered: the pattern
that was registered first among those that match and know the method decides, and of its handlers
for the method the one registered last. -/
namespace FloScript

namespace Route

/-- What the named groups of a pattern match in a path; nothing if the pattern cannot be read or
does not match. -/
def matched? (pattern path : String) : Option Parameters :=
  (Pattern.read pattern).toOption.bind (·.match? path)

/-- A handler that was registered for a template and a method. -/
structure Registration (α : Type) where
  template : String
  method : String
  handler : α

variable {α : Type} {rs : List (Registration α)} {r : Registration α} {t : Table α}
  {p q m n method path : String} {h : α} {ms : List (String × α)}

namespace Registration

def pattern (r : Registration α) : String := Route.pattern r.template

/-- The method as requests name it. -/
def verb (r : Registration α) : String := Text.toCapital r.method

/-- Whether a registration is for a pattern and a method. -/
def isFor (r : Registration α) (pattern method : String) : Bool :=
  r.pattern = pattern && r.verb = method

end Registration

/-- The handler that was registered last for a pattern and a method. -/
def lastHandler? (rs : List (Registration α)) (pattern method : String) : Option α :=
  (rs.reverse.find? (·.isFor pattern method)).map (·.handler)

/-- What answers a request: the pattern registered first among those that match the path and have a
handler for the method gives its last handler, and the parameters that it matched. -/
def chosen? (rs : List (Registration α)) (method path : String) : Option (α × Parameters) :=
  rs.findSome? fun r => do
    let ps ← matched? r.pattern path
    let h ← lastHandler? rs r.pattern method
    return (h, ps)

theorem exists_read (h : (Pattern.read p).isOk = true) : ∃ q, Pattern.read p = .ok q := by
  cases hq : Pattern.read p with
  | ok q => exact ⟨q, rfl⟩
  | error e =>
    rw [hq] at h
    cases h

theorem isSome_lastHandler? :
    (lastHandler? rs p m).isSome = true ↔ ∃ r ∈ rs, r.pattern = p ∧ r.verb = m := by
  simp [lastHandler?, Registration.isFor]

/-- A handler answers exactly if some pattern that matches has one for the method. -/
theorem isSome_chosen? : (chosen? rs method path).isSome = true ↔
    ∃ r ∈ rs, r.verb = method ∧ (matched? r.pattern path).isSome = true := by
  rw [chosen?, List.findSome?_isSome_iff]
  constructor
  · rintro ⟨r, hr, hsome⟩
    cases hps : matched? r.pattern path with
    | none => simp [hps] at hsome
    | some ps =>
      have hlast : (lastHandler? rs r.pattern method).isSome = true := by
        cases hh : lastHandler? rs r.pattern method with
        | none => simp [hps, hh] at hsome
        | some h => rfl
      obtain ⟨r', hr', hp, hm⟩ := isSome_lastHandler?.mp hlast
      exact ⟨r', hr', hm, by rw [hp, hps]; rfl⟩
  · rintro ⟨r, hr, hm, hsome⟩
    obtain ⟨ps, hps⟩ := Option.isSome_iff_exists.mp hsome
    obtain ⟨h, hh⟩ := Option.isSome_iff_exists.mp (isSome_lastHandler?.mpr ⟨r, hr, rfl, hm⟩)
    exact ⟨r, hr, by simp [hps, hh]⟩

namespace Table

/-- The patterns of a table, in their order. -/
def patterns (t : Table α) : List String := t.map Prod.fst

/-- The handler for a pattern and a method. -/
def handler? (t : Table α) (pattern method : String) : Option α :=
  (t.lookup pattern).bind (·.lookup method)

theorem lookup_cons_of_ne {β : Type} {k n : String} (hn : n ≠ k) (v : β) (es : List (String × β)) :
    ((k, v) :: es).lookup n = es.lookup n := by
  have hb : (n == k) = false := by simpa using hn
  rw [List.lookup_cons, hb]

theorem lookup_putMethod (m n : String) (h : α) (ms : List (String × α)) :
    (putMethod m h ms).lookup n = if n = m then some h else ms.lookup n := by
  induction ms with
  | nil =>
    by_cases hn : n = m
    · simp [putMethod, hn]
    · simp [putMethod, hn, lookup_cons_of_ne hn]
  | cons e ms ih =>
    obtain ⟨k, g⟩ := e
    by_cases hk : k = m
    · subst hk
      by_cases hn : n = k
      · simp [putMethod, hn]
      · simp [putMethod, hn, lookup_cons_of_ne hn]
    · by_cases hn : n = k
      · subst hn
        simp [putMethod, hk]
      · simp [putMethod, hk, lookup_cons_of_ne hn, ih]

theorem lookup_put (p m q : String) (h : α) (t : Table α) :
    (put p m h t).lookup q =
      if q = p then some (putMethod m h ((t.lookup p).getD [])) else t.lookup q := by
  induction t with
  | nil =>
    by_cases hq : q = p
    · simp [put, putMethod, hq]
    · simp [put, hq, lookup_cons_of_ne hq]
  | cons e t ih =>
    obtain ⟨k, ms⟩ := e
    by_cases hk : k = p
    · subst hk
      by_cases hq : q = k
      · simp [put, hq]
      · simp [put, hq, lookup_cons_of_ne hq]
    · have hold : ((k, ms) :: t).lookup p = t.lookup p := lookup_cons_of_ne (Ne.symm hk) ms t
      by_cases hq : q = k
      · subst hq
        simp [put, hk]
      · simp [put, hk, hold, lookup_cons_of_ne hq, ih]

/-- A registration sets its own handler and leaves all others as they are. -/
theorem handler?_put (p m q n : String) (h : α) (t : Table α) :
    (put p m h t).handler? q n = if q = p ∧ n = m then some h else t.handler? q n := by
  rw [handler?, lookup_put]
  by_cases hq : q = p
  · subst hq
    rw [if_pos rfl, Option.bind_some, lookup_putMethod]
    by_cases hn : n = m
    · simp [hn]
    · rw [if_neg hn, if_neg (by simp [hn]), handler?]
      cases t.lookup q with
      | none => rfl
      | some ms => rfl
  · rw [if_neg hq, if_neg (by simp [hq]), handler?]

/-- A pattern that is there keeps its place, a new one comes last. -/
theorem patterns_put (p m : String) (h : α) (t : Table α) :
    (put p m h t).patterns = if p ∈ t.patterns then t.patterns else t.patterns ++ [p] := by
  induction t with
  | nil => simp [put, patterns]
  | cons e t ih =>
    obtain ⟨k, ms⟩ := e
    by_cases hk : k = p
    · subst hk
      simp [put, patterns]
    · have hcons : (put p m h ((k, ms) :: t)).patterns = k :: (put p m h t).patterns := by
        simp [put, patterns, hk]
      have hmem : p ∈ patterns ((k, ms) :: t) ↔ p ∈ patterns t := by simp [patterns, Ne.symm hk]
      rw [hcons, ih]
      by_cases hp : p ∈ patterns t
      · rw [if_pos hp, if_pos (hmem.mpr hp)]
        rfl
      · rw [if_neg hp, if_neg (fun h => hp (hmem.mp h))]
        rfl

theorem nodup_patterns_put (p m : String) (h : α) (ht : t.patterns.Nodup) :
    (put p m h t).patterns.Nodup := by
  rw [patterns_put]
  by_cases hp : p ∈ t.patterns
  · rw [if_pos hp]
    exact ht
  · rw [if_neg hp]
    exact List.nodup_append.mpr ⟨ht, by simp, by
      rintro q hq q' hq' rfl
      obtain rfl : q = p := by simpa using hq'
      exact hp hq⟩

theorem mem_patterns_put (p m : String) (h : α) :
    q ∈ (put p m h t).patterns ↔ q ∈ t.patterns ∨ q = p := by
  rw [patterns_put]
  by_cases hp : p ∈ t.patterns
  · rw [if_pos hp]
    constructor
    · exact .inl
    · rintro (hq | rfl)
      · exact hq
      · exact hp
  · rw [if_neg hp]
    simp

theorem findSome?_patterns_put {β : Type} (p m : String) (h : α) (f : String → Option β) :
    (put p m h t).patterns.findSome? f = (t.patterns.findSome? f).or (f p) := by
  rw [patterns_put]
  by_cases hp : p ∈ t.patterns
  · rw [if_pos hp]
    cases hf : t.patterns.findSome? f with
    | some b => rfl
    | none =>
      have hnone : f p = none := List.findSome?_eq_none_iff.mp hf p hp
      rw [hnone]
      rfl
  · rw [if_neg hp, List.findSome?_append]
    simp

/-- The table holds what was registered: the patterns in the order of their first registration, each
with its last handlers. -/
structure Records (rs : List (Registration α)) (t : Table α) : Prop where
  distinct : t.patterns.Nodup
  mem : ∀ p, p ∈ t.patterns ↔ ∃ r ∈ rs, r.pattern = p
  first : ∀ {β : Type} (f : String → Option β),
    t.patterns.findSome? f = rs.findSome? fun r => f r.pattern
  last : ∀ p m, t.handler? p m = lastHandler? rs p m

theorem records_nil : Records (α := α) [] [] where
  distinct := by simp [patterns]
  mem := by simp [patterns]
  first f := by simp [patterns]
  last p m := rfl

theorem lastHandler?_concat (rs : List (Registration α)) (r : Registration α) (p m : String) :
    lastHandler? (rs ++ [r]) p m =
      if p = r.pattern ∧ m = r.verb then some r.handler else lastHandler? rs p m := by
  by_cases hr : p = r.pattern ∧ m = r.verb
  · obtain ⟨rfl, rfl⟩ := hr
    simp [lastHandler?, Registration.isFor]
  · have hno : r.isFor p m = false := by
      simp only [Registration.isFor, Bool.and_eq_false_iff, decide_eq_false_iff_not]
      by_cases hp : r.pattern = p
      · exact .inr fun hm => hr ⟨hp.symm, hm.symm⟩
      · exact .inl hp
    rw [if_neg hr]
    simp [lastHandler?, hno]

/-- One registration. -/
theorem Records.register (ht : Records rs t) (r : Registration α) :
    Records (rs ++ [r]) (t.register r.template r.method r.handler) where
  distinct := nodup_patterns_put r.pattern r.verb r.handler ht.distinct
  mem p := by
    have hput : p ∈ (t.register r.template r.method r.handler).patterns ↔
        p ∈ t.patterns ∨ p = r.pattern :=
      mem_patterns_put r.pattern r.verb r.handler
    rw [hput, ht.mem]
    constructor
    · rintro (⟨r', hr', hp⟩ | rfl)
      · exact ⟨r', by simp [hr'], hp⟩
      · exact ⟨r, by simp, rfl⟩
    · rintro ⟨r', hr', hp⟩
      rcases List.mem_append.mp hr' with hr' | hr'
      · exact .inl ⟨r', hr', hp⟩
      · obtain rfl : r' = r := by simpa using hr'
        exact .inr hp.symm
  first f := by
    have hput : (t.register r.template r.method r.handler).patterns.findSome? f =
        (t.patterns.findSome? f).or (f r.pattern) :=
      findSome?_patterns_put r.pattern r.verb r.handler f
    rw [hput, ht.first, List.findSome?_append]
    simp
  last p m := by
    have hput : (t.register r.template r.method r.handler).handler? p m =
        if p = r.pattern ∧ m = r.verb then some r.handler else t.handler? p m :=
      handler?_put r.pattern r.verb p m r.handler t
    rw [hput, lastHandler?_concat, ht.last]

/-- In a table whose patterns are distinct, the methods of an entry are those that its pattern
has. -/
theorem lookup_of_mem {e : String × List (String × α)} (ht : t.patterns.Nodup) (he : e ∈ t) :
    t.lookup e.1 = some e.2 := by
  induction t with
  | nil => cases he
  | cons d t ih =>
    obtain ⟨k, ms⟩ := d
    obtain ⟨hk, hrest⟩ := List.nodup_cons.mp (show (k :: patterns t).Nodup from ht)
    rcases List.mem_cons.mp he with rfl | he
    · simp
    · have hne : e.1 ≠ k := by
        intro h
        exact hk (h ▸ List.mem_map_of_mem he)
      rw [lookup_cons_of_ne hne]
      exact ih hrest he

/-- A table of patterns that can be read gives the first handler that there is; `g` says which
handler each pattern has. -/
theorem find_eq {g : String → Option α} (hread : ∀ p ∈ t.patterns, ∃ q, Pattern.read p = .ok q)
    (hg : ∀ e ∈ t, e.2.lookup method = g e.1) :
    t.find method path = .ok (t.patterns.findSome? fun p => do
      let ps ← matched? p path
      let h ← g p
      return (h, ps)) := by
  induction t with
  | nil => rfl
  | cons e t ih =>
    obtain ⟨k, ms⟩ := e
    obtain ⟨q, hq⟩ := hread k (by simp [patterns])
    have hrest :=
      ih (fun p hp => hread p (List.mem_cons_of_mem k hp)) fun e he =>
        hg e (List.mem_cons_of_mem _ he)
    have hms : ms.lookup method = g k := hg (k, ms) (by simp)
    have hmatched : matched? k path = q.match? path := by
      rw [matched?, hq]
      rfl
    have hcons : patterns ((k, ms) :: t) = k :: patterns t := rfl
    rw [find, hq, hcons, List.findSome?_cons, hmatched, hms]
    cases hps : q.match? path with
    | none => simpa [bind, Except.bind, hps] using hrest
    | some ps =>
      cases hh : g k with
      | none => simpa [bind, Except.bind, hps] using hrest
      | some h => simp [bind, Except.bind, hps, pure, Except.pure]

/-- A table answers from what was registered. -/
theorem Records.find_eq_chosen (ht : Records rs t)
    (hread : ∀ r ∈ rs, ∃ q, Pattern.read r.pattern = .ok q) (method path : String) :
    t.find method path = .ok (chosen? rs method path) := by
  have hpatterns : ∀ p ∈ t.patterns, ∃ q, Pattern.read p = .ok q := by
    intro p hp
    obtain ⟨r, hr, rfl⟩ := (ht.mem p).mp hp
    exact hread r hr
  have hlookup : ∀ e ∈ t, e.2.lookup method = lastHandler? rs e.1 method := by
    intro e he
    rw [← ht.last, handler?, lookup_of_mem ht.distinct he, Option.bind_some]
  rw [find_eq (g := fun p => lastHandler? rs p method) hpatterns hlookup, ht.first, chosen?]

end Table

end Route

/-- A handler that gives a value and does nothing else. -/
def Handler.giving (v : Value) : Handler := ⟨fun _ => ⟨.ok v, .initial⟩⟩

namespace Server

/-- What a request gives if a handler ended so. -/
def Exchange.ofOutcome (o : Outcome) : Exchange := ⟨(answer o).1, o.machine.output, (answer o).2⟩

/-- What a request gives that nothing answers. -/
def Exchange.notFound : Exchange := ⟨[.status (.int 404), .endHeaders], "", none⟩

variable {t : Route.Table Handler} {h : Handler} {ps : Route.Parameters} {method path : String}

theorem handle_found (hf : t.find method path = .ok (some (h, ps))) :
    handle t method path = .ofOutcome (h.call ps) := by
  rw [handle, hf]
  rfl

theorem handle_missing (hf : t.find method path = .ok none) : handle t method path = .notFound := by
  rw [handle, hf]
  rfl

end Server

namespace Application

open Route (Registration chosen? matched?)

/-- What is done with an application before a request. The short forms for single methods register
for these. -/
inductive Action where
  | register (r : Registration Handler)
  | listen (port : Int) (interrupt : Bool)

def perform (a : Application) : Action → Application
  | .register r => a.register r.template r.method r.handler
  | .listen port interrupt => (a.listen port interrupt).1

/-- A new application after some actions. -/
def after (as : List Action) : Application := as.foldl perform new

/-- The handlers that were registered, in their order. -/
def registrations (as : List Action) : List (Registration Handler) :=
  as.filterMap fun
    | .register r => some r
    | .listen .. => none

variable {a : Application} {as : List Action} {rs : List (Registration Handler)}

/-- One action. -/
theorem records_perform (h : a.routes.Records rs) (x : Action) :
    (a.perform x).routes.Records (rs ++ registrations [x]) := by
  cases x with
  | register r => exact h.register r
  | listen port interrupt => simpa [registrations, perform, listen] using h

/-- All actions, whether the server was started before them or not. -/
theorem records_foldl (h : a.routes.Records rs) (as : List Action) :
    (as.foldl perform a).routes.Records (rs ++ registrations as) := by
  induction as generalizing a rs with
  | nil => simpa [registrations] using h
  | cons x as ih =>
    have hsplit : registrations (x :: as) = registrations [x] ++ registrations as := by
      simp [registrations, ← List.filterMap_append]
    rw [List.foldl_cons, hsplit, ← List.append_assoc]
    exact ih (records_perform h x)

theorem records_after (as : List Action) : (after as).routes.Records (registrations as) := by
  have h := records_foldl (a := new) Route.Table.records_nil as
  rw [List.nil_append] at h
  exact h

theorem listening_perform (h : a.listening = true) (x : Action) :
    (a.perform x).listening = true := by
  cases x with
  | register r => exact h
  | listen port interrupt => rfl

theorem listening_foldl (h : a.listening = true ∨ ∃ port interrupt, .listen port interrupt ∈ as) :
    (as.foldl perform a).listening = true := by
  induction as generalizing a with
  | nil => simpa using h
  | cons x as ih =>
    refine ih ?_
    rcases h with h | ⟨port, interrupt, h⟩
    · exact .inl (listening_perform h x)
    · rcases List.mem_cons.mp h with rfl | h
      · exact .inl rfl
      · exact .inr ⟨port, interrupt, h⟩

/-- After the server was started, a request is answered by one handler, the one that was registered
last for the method with the first pattern that matches and has one; if there is none, the answer is
404. A registration for a pattern that is there leaves the order of the patterns and all other
handlers as they are. -/
theorem request_after (as : List Action) (hlisten : ∃ port interrupt, .listen port interrupt ∈ as)
    (hread : ∀ r ∈ registrations as, ∃ q, Pattern.read r.pattern = .ok q) (method path : String) :
    ((after as).request method path = match chosen? (registrations as) method path with
      | some (h, ps) => .ofOutcome (h.call ps)
      | none => .notFound) ∧
    ((chosen? (registrations as) method path).isSome = true ↔
      ∃ r ∈ registrations as, r.verb = method ∧ (matched? r.pattern path).isSome = true) ∧
    ∀ r, (∃ r' ∈ registrations as, r'.pattern = r.pattern) →
      (after (as ++ [.register r])).routes.patterns = (after as).routes.patterns ∧
      ∀ p m, (p, m) ≠ (r.pattern, r.verb) →
        (after (as ++ [.register r])).routes.handler? p m = (after as).routes.handler? p m := by
  have hrecords := records_after as
  refine ⟨?_, Route.isSome_chosen?, ?_⟩
  · have hvisible : (after as).visible = (after as).routes :=
      if_pos (listening_foldl (.inr hlisten))
    have hfind := hrecords.find_eq_chosen hread method path
    rw [request, hvisible]
    cases hchosen : chosen? (registrations as) method path with
    | none =>
      rw [hchosen] at hfind
      exact Server.handle_missing hfind
    | some found =>
      rw [hchosen] at hfind
      exact Server.handle_found hfind
  · intro r hold
    have hregister : (after (as ++ [.register r])).routes =
        (after as).routes.put r.pattern r.verb r.handler := by
      rw [after, List.foldl_append]
      rfl
    rw [hregister]
    constructor
    · rw [Route.Table.patterns_put, if_pos ((hrecords.mem _).mpr hold)]
    · intro p m hne
      rw [Route.Table.handler?_put, if_neg]
      rintro ⟨rfl, rfl⟩
      exact hne rfl

/-- A handler that gives the text of a parameter. -/
def echoing (name : String) : Handler :=
  ⟨fun ps => ⟨.ok (.text ((ps.lookup name).join.getD "")), .initial⟩⟩

/-- A parameter is registered twice for one method, and a fixed path after it. -/
def overlapping : List Action :=
  [.register ⟨"/items/:id", "get", .giving (.int 1)⟩, .listen 8080 false,
    .register ⟨"/items/:id", "GET", echoing "id"⟩, .register ⟨"/items/7", "GET", .giving (.int 2)⟩]

theorem request_overlapping : (after overlapping).request "GET" "/items/7" =
    .ofOutcome ⟨.ok (.text "7"), .initial⟩ := by
  have hread : ∀ r ∈ registrations overlapping, ∃ q, Pattern.read r.pattern = .ok q := by
    have hall : ∀ r ∈ registrations overlapping, (Pattern.read r.pattern).isOk = true := by
      decide +kernel
    exact fun r hr => Route.exists_read (hall r hr)
  have hmatched : matched? (Route.pattern "/items/:id") "/items/7" = some [("id", some "7")] := by
    decide +kernel
  have hother : Route.pattern "/items/7" ≠ Route.pattern "/items/:id" := by decide +kernel
  have hget : Text.toCapital "GET" = "GET" := by decide +kernel
  have hchosen : chosen? (registrations overlapping) "GET" "/items/7" =
      some (echoing "id", [("id", some "7")]) := by
    simp [chosen?, registrations, overlapping, Registration.pattern, hmatched,
      Route.lastHandler?, Registration.isFor, Registration.verb, hother, hget]
  have h :=
    (request_after overlapping ⟨8080, false, by simp [overlapping]⟩ hread "GET" "/items/7").1
  rw [hchosen] at h
  exact h

end Application
end FloScript
