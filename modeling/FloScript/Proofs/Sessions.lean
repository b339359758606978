import Mathlib.Data.List.Forall2
import FloScript.Proofs.JoinedPrograms
import FloScript.Session

/-! Sources run one after the other, and as one text with newlines between them. -/
namespace FloScript

open FloScript.Parser FloScript.Scanner

variable {a b source : String} {ss ts : List Node} {m : Machine} {v w : Value}

section Parsing

/-- A source that is read as the given statements, with no decorator among its tokens. -/
structure Piece (source : String) (ss : List Node) : Prop where
  tokens : ∃ us e, tokensOf source = .ok (us ++ [e]) ∧ e.kind = .eof ∧ Program ss us ∧
    ∀ u ∈ us, u.kind ≠ .atSign

theorem Piece.parse_eq (h : Piece source ss) : parse source = .ok (.program ss) := by
  obtain ⟨us, e, ht, he, hp, -⟩ := h.tokens
  unfold parse
  rw [ht]
  exact hp.programOf_eq he []

/-- What is read on its own without a decorator is a piece. -/
theorem piece_of_parsed {us : List Token} {n : Node} (ht : tokensOf source = .ok us)
    (hp : programOf us = .ok n) (hat : ∀ u ∈ us, u.kind ≠ .atSign) :
    ∃ ss, n = .program ss ∧ Piece source ss := by
  obtain ⟨t, hcomes, -, rfl⟩ := tokensOf_eq_ok_iff.mp ht
  obtain ⟨us, hus, hne⟩ := hcomes.tokens
  have hin : ∀ u ∈ t.tokens.toList, u.kind ≠ .eof := by simpa [hus, ofSource] using hne
  obtain ⟨ss, hprogram, rfl⟩ := (programOf_eq_ok_iff hin rfl).mp hp
  exact ⟨ss, rfl, _, _, ht, rfl, hprogram, fun u hu => hat u (by simp [hu])⟩

theorem piece_empty : Piece "" [] := by
  refine ⟨[], ⟨.eof, .null, ⟨1, 1⟩⟩, rfl, rfl, program_nil, by simp⟩

theorem Piece.join (ha : Piece a ss) (hb : Piece b ts) : Piece (a ++ "\n" ++ b) (ss ++ ts) := by
  obtain ⟨us, e, hta, -, hpa, hna⟩ := ha.tokens
  obtain ⟨vs, f, htb, hf, hpb, hnb⟩ := hb.tokens
  have htokens := tokensOf_join hta htb
  rw [List.map_append, List.map_singleton] at htokens
  refine ⟨us ++ ⟨.newline, .text "\n", e.place⟩ :: vs.map (Token.down e.place.line),
    f.down e.place.line, ?_, hf, hpa.join hna rfl hpb.down, ?_⟩
  · simpa using htokens
  · simp only [List.mem_append, List.mem_cons, List.mem_map]
    rintro u (hu | rfl | ⟨x, hx, rfl⟩)
    · exact hna u hu
    · simp
    · exact hnb x hx

theorem piece_intercalate {sources : List String} {sss : List (List Node)}
    (h : List.Forall₂ Piece sources sss) :
    Piece ("\n".intercalate sources) sss.flatten := by
  induction h with
  | nil => exact piece_empty
  | @cons a ss sources sss ha h ih =>
    cases h with
    | nil => simpa using ha
    | cons hb h => simpa using ha.join ih

end Parsing

/-- Runs a step after what was run before, unless that has failed. -/
def Outcome.followed (o : Outcome) (x : Run Value) : Outcome :=
  match o.ending with
  | .ok _ => o.machine.exec x
  | .error _ => o

/-- Runs sources in order on one machine, up to the first that fails. -/
def Machine.session (m : Machine) (sources : List String) : Outcome :=
  sources.foldl (fun o source => o.followed (runSource source)) ⟨.ok .null, m⟩

section Running

theorem foldl_followed_error {o : Outcome} {e : Signal} (h : o.ending = .error e)
    (sources : List String) :
    sources.foldl (fun o source => o.followed (runSource source)) o = o := by
  induction sources with
  | nil => rfl
  | cons source sources ih =>
    have hf : o.followed (runSource source) = o := by simp [Outcome.followed, h]
    rw [List.foldl_cons, hf, ih]

theorem exec_bind (m : Machine) (x : Run Value) (f : Value → Run Value) :
    m.exec (x >>= f) = match m.exec x with
      | ⟨.ok v, m'⟩ => m'.exec (f v)
      | ⟨.error e, m'⟩ => ⟨.error e, m'⟩ := by
  have hbind : (x >>= f) m = EStateM.bind x f m := rfl
  unfold Machine.exec
  rw [hbind, EStateM.bind]
  cases x m <;> rfl

namespace Evaluator

variable (ev : Evaluator) (scope : Nat)

theorem block_append (v : Value) (ss ts : List Node) :
    block ev scope v (ss ++ ts) = block ev scope v ss >>= fun w => block ev scope w ts := by
  induction ss generalizing v with
  | nil => rfl
  | cons n ss ih => simp only [List.cons_append, block, ih, bind_assoc]

/-- The value before the first statement does not matter. -/
theorem block_ne_nil (hss : ss ≠ []) (v w : Value) : block ev scope v ss = block ev scope w ss := by
  cases ss with
  | nil => exact absurd rfl hss
  | cons n ss => rfl

end Evaluator

theorem evaluate_program :
    ∃ ev : Evaluator, ∀ ss, evaluate (.program ss) = ev.block Machine.globals .null ss := by
  obtain ⟨d, hd⟩ : ∃ d, depthLimit = d + 1 := ⟨depthLimit - 1, by decide⟩
  refine ⟨eval roundLimit d, ?_⟩
  intro ss
  rw [evaluate, hd]
  rfl

theorem Piece.runSource_eq (h : Piece source ss) : runSource source = evaluate (.program ss) := by
  unfold runSource
  rw [h.parse_eq]
  rfl

/-- The two runs leave the same machine and the same error, and the same value if `exact` holds. -/
structure Agrees (whole parts : Outcome) (exact : Prop) : Prop where
  machine : whole.machine = parts.machine
  error : ∀ e, whole.ending = .error e ↔ parts.ending = .error e
  value : exact → whole.ending = parts.ending

theorem agrees_of_eq {whole parts : Outcome} {exact : Prop} (h : whole = parts) :
    Agrees whole parts exact := by
  subst h
  exact ⟨rfl, fun _ => Iff.rfl, fun _ => rfl⟩

theorem Agrees.eq {whole parts : Outcome} {exact : Prop}
    (h : Agrees whole parts exact) (he : exact) :
    whole = parts := by
  obtain ⟨hm, -, hv⟩ := h
  cases whole
  cases parts
  simp_all

/-- The last source has a statement. -/
def EndsFilled (sources : List String) : Prop := ∀ s ∈ sources.getLast?, parse s ≠ .ok (.program [])

theorem EndsFilled.tail {sources : List String} (h : EndsFilled (source :: sources)) :
    EndsFilled sources := by
  cases sources with
  | nil => simp [EndsFilled]
  | cons s sources => simpa [EndsFilled] using h

/-- If there is no statement at all, then there is none in the last source. -/
theorem not_endsFilled {sources : List String} {sss : List (List Node)}
    (h : List.Forall₂ Piece sources sss) (hne : sources ≠ []) (hnil : sss.flatten = []) :
    ¬ EndsFilled sources := by
  induction h with
  | nil => exact absurd rfl hne
  | @cons a ss sources sss ha h ih =>
    obtain ⟨rfl, hrest⟩ : ss = [] ∧ sss.flatten = [] := by simpa using hnil
    intro hf
    cases h with
    | nil => exact hf a rfl ha.parse_eq
    | cons hb h => exact ih (by simp) hrest hf.tail

/-- A session goes on like the block of all its statements. -/
theorem session_agrees {ev : Evaluator}
    (hev : ∀ ss, evaluate (.program ss) = ev.block Machine.globals .null ss) {sources : List String}
    {sss : List (List Node)} (h : List.Forall₂ Piece sources sss) (m : Machine) (v : Value) :
    Agrees (m.exec (ev.block Machine.globals v sss.flatten))
      (sources.foldl (fun o source => o.followed (runSource source)) ⟨.ok v, m⟩)
      (EndsFilled sources) := by
  induction h generalizing m v with
  | nil => exact agrees_of_eq rfl
  | @cons a ss sources sss ha h ih =>
    have hstep :
        (⟨.ok v, m⟩ : Outcome).followed (runSource a) =
          m.exec (ev.block Machine.globals .null ss) := by
      rw [ha.runSource_eq, hev]
      rfl
    rw [List.flatten_cons, ev.block_append, exec_bind, List.foldl_cons, hstep]
    by_cases hss : ss = []
    · subst hss
      obtain ⟨hm, he, hv⟩ := ih m .null
      change Agrees (m.exec (ev.block Machine.globals v sss.flatten)) _ _
      by_cases hnil : sss.flatten = []
      · -- nothing is left to run, so the values may differ: that of the session is null
        rw [hnil] at hm he ⊢
        refine ⟨hm, ?_, ?_⟩
        · intro e
          refine Iff.trans ?_ (he e)
          constructor <;> rintro ⟨⟩
        · intro hf
          exact absurd hf (not_endsFilled (.cons ha h) (by simp) (by simpa using hnil))
      · rw [ev.block_ne_nil _ hnil v .null]
        exact ⟨hm, he, fun hf => hv hf.tail⟩
    · rw [ev.block_ne_nil _ hss v .null]
      cases hrun : m.exec (ev.block Machine.globals .null ss) with
      | mk ending m' =>
        cases ending with
        | ok w =>
          obtain ⟨hm, he, hv⟩ := ih m' w
          exact ⟨hm, he, fun hf => hv hf.tail⟩
        | error e =>
          rw [foldl_followed_error rfl]
          exact agrees_of_eq rfl

theorem exists_pieces {sources : List String}
    (h : ∀ s ∈ sources, ∃ ts n, tokensOf s = .ok ts ∧ programOf ts = .ok n ∧
      ∀ t ∈ ts, t.kind ≠ .atSign) :
    ∃ sss, List.Forall₂ Piece sources sss := by
  induction sources with
  | nil => exact ⟨[], .nil⟩
  | cons s sources ih =>
    obtain ⟨⟨ts, n, ht, hp, hat⟩, hrest⟩ := List.forall_mem_cons.mp h
    obtain ⟨ss, -, hpiece⟩ := piece_of_parsed ht hp hat
    obtain ⟨sss, hall⟩ := ih hrest
    exact ⟨ss :: sss, .cons hpiece hall⟩

/-- Sources that can each be read, and have no decorators, run as a session as they run as one text
with newlines between them: the machine is left in the same state, the same error occurs or none,
and if the last source has a statement then the value is the same. -/
theorem exec_intercalate {sources : List String} (m : Machine)
    (h : ∀ s ∈ sources, ∃ ts n, tokensOf s = .ok ts ∧ programOf ts = .ok n ∧
      ∀ t ∈ ts, t.kind ≠ .atSign) :
    Agrees (m.exec (runSource ("\n".intercalate sources))) (m.session sources)
      (EndsFilled sources) := by
  obtain ⟨sss, hpieces⟩ := exists_pieces h
  obtain ⟨ev, hev⟩ := evaluate_program
  rw [(piece_intercalate hpieces).runSource_eq, hev]
  exact session_agrees hev hpieces m .null

theorem exec_twoLines :
    Machine.initial.exec (runSource "x = 1\nprint(x)") =
      Machine.initial.session ["x = 1", "print(x)"] := by
  have hread : ∀ s ∈ ["x = 1", "print(x)"], ∃ ts n, tokensOf s = .ok ts ∧ programOf ts = .ok n ∧
      ∀ t ∈ ts, t.kind ≠ .atSign := by
    rintro s (_ | ⟨_, _ | ⟨_, ⟨⟩⟩⟩)
    · exact ⟨_, _, rfl, rfl, by decide⟩
    · exact ⟨_, _, rfl, rfl, by decide⟩
  have hlast : parse "print(x)" = .ok (.program [.call (.identifier "print") [.identifier "x"]]) :=
    rfl
  have hfilled : EndsFilled ["x = 1", "print(x)"] := by
    rintro s ⟨⟩
    change parse "print(x)" ≠ _
    rw [hlast]
    rintro ⟨⟩
  exact (exec_intercalate Machine.initial hread).eq hfilled

end Running

end FloScript
