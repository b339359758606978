import Mathlib.Data.List.Forall2
import FloScript.Command.Perform
import FloScript.Proofs.ParsedTrees

/-! Runs of the console. The lines that it runs are a session: each is run on the machine that the
one before it left, and what is printed for it follows from its outcome. The console stops at a line
that asks for it and at the end of the input, and in one other case: where a line returns a value
without a text, the fault of writing it is caught by nothing. -/
namespace FloScript

/-- The machine with nothing printed. -/
def Machine.rested (m : Machine) : Machine := { m with output := "" }

/-- The outcomes of sources that are run one after the other on one machine. Each finds the machine
as the one before it left it, however that ended, and what it prints is kept apart. -/
def Machine.steps (m : Machine) : List String → List Outcome
  | [] => []
  | s :: ss =>
    let o := m.exec (runSource s)
    o :: steps o.machine.rested ss

/-- The machine after sources that are run one after the other. -/
def Machine.afterSteps (m : Machine) (sources : List String) : Machine :=
  sources.foldl (fun m s => (m.exec (runSource s)).machine.rested) m

/-- What is shown of an outcome: what was printed, and after it the value unless it is null, or the
message of what was raised. Not all values have a text. -/
inductive Outcome.Shows (o : Outcome) : String → Prop where
  | nothing : o.ending = .ok .null → Shows o o.machine.output
  | value {v : Value} {s : String} :
      o.ending = .ok v → v ≠ .null → v.display o.machine.scopes = .ok s →
      Shows o (o.machine.output ++ (s ++ "\n"))
  | fault {e : Fault} :
      o.ending = .error (.fault e) → Shows o (o.machine.output ++ ("Error: " ++ e.message ++ "\n"))
  | returned {v : Value} {s : String} :
      o.ending = .error (.returned v) → v.display o.machine.scopes = .ok s →
      Shows o (o.machine.output ++ ("Error: " ++ s ++ "\n"))

/-- The fault of writing the outcome, if it is the return of a value that has no text. -/
def Outcome.unwritable? (o : Outcome) : Option Fault :=
  match o.ending with
  | .error (.returned v) =>
    match v.display o.machine.scopes with
    | .ok _ => none
    | .error e => some e
  | _ => none

namespace Console

/-- The line asks the console to end. -/
def leaves (s : String) : Bool := Text.trim s = "exit" || Text.trim s = "quit"

def blank (s : String) : Bool := (Text.trim s).isEmpty

/-- The lines that are run: those before the first that asks the console to end, without the blank
ones. -/
def sources (lines : List String) : List String :=
  (lines.takeWhile fun s => !leaves s).filter fun s => !blank s

/-- The console after some lines, if it still waits for one. -/
def awaits? (c : Console) : List Line → Option Console
  | [] => some c
  | l :: ls =>
    match (c.respond l).next with
    | .waits c' => awaits? c' ls
    | _ => none

/-- What is printed after each of some lines, up to the line at which the console stops. -/
def replies (c : Console) : List Line → List String
  | [] => []
  | l :: ls =>
    (c.respond l).output ::
      match (c.respond l).next with
      | .waits c' => replies c' ls
      | _ => []

/-- The console that reads the last line, after which it stops; the end of the input counts as a
line. -/
def last (c : Console) : List Line → Console
  | [] => c
  | l :: ls =>
    match (c.respond l).next with
    | .waits c' => last c' ls
    | _ => c

variable {c c' : Console} {l : Line} {ls before : List Line} {s t : String}
  {o : Outcome} {e : Fault}

section Lines

theorem respond_leaves (h : leaves s = true) : c.respond (.text s) = ⟨"", .ends⟩ := if_pos h

theorem respond_blank (hl : leaves s = false) (hb : blank s = true) :
    c.respond (.text s) = c.goOn "" :=
  (if_neg (Bool.eq_false_iff.mp hl)).trans (if_pos hb)

theorem respond_source (hl : leaves s = false) (hb : blank s = false) :
    c.respond (.text s) = answer (c.machine.exec (runSource s)) :=
  (if_neg (Bool.eq_false_iff.mp hl)).trans (if_neg (Bool.eq_false_iff.mp hb))

theorem answer_of_shows (h : o.Shows t) : answer o = goOn ⟨o.machine.rested⟩ t := by
  cases h with
  | nothing h =>
    unfold answer
    rw [h]
    rfl
  | @value v s h hv hs =>
    unfold answer
    rw [h]
    cases v with
    | null => exact absurd rfl hv
    | _ => simp only [hs]; rfl
  | fault h =>
    unfold answer
    rw [h]
    rfl
  | returned h hs =>
    unfold answer
    rw [h]
    simp only [hs]
    rfl

/-- A source whose outcome is shown is answered with that, and the console waits. -/
theorem respond_of_shows (hl : leaves s = false) (hb : blank s = false)
    (h : (c.machine.exec (runSource s)).Shows t) :
    c.respond (.text s) = goOn ⟨(c.machine.exec (runSource s)).machine.rested⟩ t :=
  (respond_source hl hb).trans (answer_of_shows h)

theorem answer_unwritable (h : o.unwritable? = some e) :
    answer o = ⟨o.machine.output, .breaks e⟩ := by
  unfold Outcome.unwritable? at h
  unfold answer
  cases ho : o.ending with
  | ok v =>
    rw [ho] at h
    cases h
  | error signal =>
    rw [ho] at h
    cases signal with
    | fault e => cases h
    | unfinished => cases h
    | returned v =>
      cases hv : v.display o.machine.scopes with
      | ok s => simp [hv] at h
      | error e' =>
        obtain rfl : e' = e := by simpa [hv] using h
        simp only [hv]

/-- An outcome that is not left unfinished is shown, or it is the return of a value without a
text. -/
theorem answer_cases (h : o.ending ≠ .error .unfinished) :
    (∃ t, answer o = goOn ⟨o.machine.rested⟩ t) ∨ ∃ e, o.unwritable? = some e := by
  cases ho : o.ending with
  | ok v =>
    refine .inl ?_
    unfold answer
    rw [ho]
    cases v with
    | null => exact ⟨_, rfl⟩
    | _ => exact ⟨_, rfl⟩
  | error e =>
    cases e with
    | unfinished => exact absurd ho h
    | fault e => exact .inl ⟨_, answer_of_shows (.fault ho)⟩
    | returned v =>
      cases hv : v.display o.machine.scopes with
      | ok s => exact .inl ⟨_, answer_of_shows (.returned ho hv)⟩
      | error e => exact .inr ⟨e, by simp [Outcome.unwritable?, ho, hv]⟩

end Lines

section Transcripts

theorem awaits?_cons (h : (c.respond l).next = .waits c') :
    c.awaits? (l :: ls) = c'.awaits? ls := by
  rw [awaits?, h]

theorem replies_cons (h : (c.respond l).next = .waits c') :
    c.replies (l :: ls) = (c.respond l).output :: c'.replies ls := by
  rw [replies, h]

theorem last_cons (h : (c.respond l).next = .waits c') : c.last (l :: ls) = c'.last ls := by
  rw [last, h]

theorem transcript_cons (h : (c.respond l).next = .waits c') :
    c.transcript (l :: ls) = ((c.respond l).output :: (c'.transcript ls).1,
      (c'.transcript ls).2) := by
  rw [transcript, h]

theorem transcript_ends (h : (c.respond l).next = .ends) :
    c.transcript (l :: ls) = ([(c.respond l).output], none) := by
  rw [transcript, h]
  simp only [transcript.finish, h]

theorem transcript_breaks (h : (c.respond l).next = .breaks e) :
    c.transcript (l :: ls) = ([(c.respond l).output], some e) := by
  rw [transcript, h]
  simp only [transcript.finish, h]

theorem perform_eq (lines : List Line) :
    Console.perform lines =
      ⟨if (Console.new.transcript lines).2.isSome then 1 else 0,
        banner :: (Console.new.transcript lines).1, "", (Console.new.transcript lines).2⟩ := rfl

/-- A console that still waits after some lines goes on as the one it has become. -/
theorem awaits?_append (h : c.awaits? before = some c') (rest : List Line) :
    c.transcript (before ++ rest) = (c.replies before ++ (c'.transcript rest).1,
      (c'.transcript rest).2) ∧
      c.last (before ++ rest) = c'.last rest ∧ (c.replies before).length = before.length := by
  induction before generalizing c with
  | nil =>
    cases h
    exact ⟨rfl, rfl, rfl⟩
  | cons l ls ih =>
    cases hnext : (c.respond l).next with
    | waits d =>
      rw [awaits?_cons hnext] at h
      obtain ⟨htranscript, hlast, hlength⟩ := ih h
      refine ⟨?_, ?_, ?_⟩
      · rw [List.cons_append, transcript_cons hnext, htranscript, replies_cons hnext]
        rfl
      · rw [List.cons_append, last_cons hnext, hlast]
      · rw [replies_cons hnext, List.length_cons, hlength, List.length_cons]
    | ends | breaks | hangs =>
      rw [awaits?, hnext] at h
      cases h

/-- After a line at which the console stops nothing is read. -/
theorem awaits?_eq_none (h : c.awaits? before = none) (rest : List Line) :
    c.transcript (before ++ rest) = c.transcript before ∧ c.last (before ++ rest) = c.last before ∧
      (c.transcript before).1.length ≤ before.length := by
  induction before generalizing c with
  | nil => cases h
  | cons l ls ih =>
    rw [List.cons_append]
    cases hnext : (c.respond l).next with
    | waits d =>
      rw [awaits?_cons hnext] at h
      obtain ⟨htranscript, hlast, hlength⟩ := ih h
      rw [transcript_cons hnext, transcript_cons hnext, last_cons hnext,
        last_cons hnext, htranscript, hlast]
      exact ⟨rfl, rfl, Nat.succ_le_succ hlength⟩
    | ends | breaks | hangs =>
      have hstop : ∀ ls, c.transcript (l :: ls) = transcript.finish (c.respond l) :=
        fun ls => by rw [transcript, hnext]
      have hone : (transcript.finish (c.respond l)).1.length = 1 := by
        simp only [transcript.finish, hnext, List.length_singleton]
      rw [hstop, hstop, last, last, hnext, hone]
      exact ⟨rfl, rfl, Nat.succ_le_succ (Nat.zero_le _)⟩

end Transcripts

section Survival

/-- The line is one at which the console ends: it asks for the end, or the input has ended. -/
def Closes : Line → Prop
  | .text s => leaves s = true
  | .interrupt => False
  | .ended => True

/-- The console runs the line, and the run ends with the return of a value that has no text, for
writing it ends with the fault. -/
def Unwritable (c : Console) : Line → Fault → Prop
  | .text s, e =>
    leaves s = false ∧ blank s = false ∧ (c.machine.exec (runSource s)).unwritable? = some e
  | _, _ => False

/-- Every line that the console comes to run is run to an end. -/
def Terminates (c : Console) : List Line → Prop
  | [] => True
  | l :: ls =>
    (∀ s, l = .text s → leaves s = false → blank s = false →
      (c.machine.exec (runSource s)).ending ≠ .error .unfinished) ∧
    ∀ c', (c.respond l).next = .waits c' → Terminates c' ls

/-- What becomes of a console at a line. -/
theorem respond_cases (h : c.Terminates (l :: ls)) :
    (∃ d, (c.respond l).next = .waits d) ∨ Closes l ∧ (c.respond l).next = .ends ∨
      ∃ e, c.Unwritable l e ∧ (c.respond l).next = .breaks e := by
  cases l with
  | ended => exact .inr (.inl ⟨trivial, rfl⟩)
  | interrupt => exact .inl ⟨c, rfl⟩
  | text s =>
    cases hl : leaves s with
    | true => exact .inr (.inl ⟨hl, by rw [respond_leaves hl]⟩)
    | false =>
      cases hb : blank s with
      | true => exact .inl ⟨c, by rw [respond_blank hl hb]; rfl⟩
      | false =>
        rw [respond_source hl hb]
        rcases answer_cases (h.1 s rfl hl hb) with ⟨t, ht⟩ | ⟨e, ho⟩
        · exact .inl ⟨_, by rw [ht]; rfl⟩
        · exact .inr (.inr ⟨e, ⟨hl, hb, ho⟩, by rw [answer_unwritable ho]⟩)

theorem Unwritable.breaks (h : c.Unwritable l e) : (c.respond l).next = .breaks e := by
  cases l with
  | text s =>
    obtain ⟨hl, hb, ho⟩ := h
    rw [respond_source hl hb, answer_unwritable ho]
  | interrupt | ended => exact h.elim

theorem terminates_of_shows (hl : leaves s = false) (hb : blank s = false)
    (h : (c.machine.exec (runSource s)).Shows t)
    (hrest : Terminates ⟨(c.machine.exec (runSource s)).machine.rested⟩ ls) :
    c.Terminates (.text s :: ls) := by
  refine ⟨?_, fun d hd => ?_⟩
  · rintro s ⟨⟩ - - hunfinished
    cases h <;> simp_all
  · rw [respond_of_shows hl hb h] at hd
    cases hd
    exact hrest

theorem Unwritable.terminates (h : c.Unwritable l e) : c.Terminates (l :: ls) := by
  refine ⟨?_, fun d hd => ?_⟩
  · rintro s rfl - - hunfinished
    have ho : (c.machine.exec (runSource s)).unwritable? = some e := h.2.2
    simp [Outcome.unwritable?, hunfinished] at ho
  · rw [h.breaks] at hd
    cases hd

/-- A console stops at the end of the input, at a line that closes it, or at the return of a value
without a text; only the last breaks it down, by the fault of writing that value. Something is
printed after each line that is read, the last one and the end included. -/
theorem exists_stop (h : c.Terminates ls) :
    (∃ c', c.awaits? ls = some c' ∧ (c.transcript ls).2 = none ∧
      (c.transcript ls).1.length = ls.length + 1) ∨
      ∃ before l after c', ls = before ++ l :: after ∧ c.awaits? before = some c' ∧
        (c.transcript ls).1.length = before.length + 1 ∧
        (Closes l ∧ (c.transcript ls).2 = none ∨ ∃ e, c'.Unwritable l e ∧
          (c.transcript ls).2 = some e) := by
  induction ls generalizing c with
  | nil => exact .inl ⟨c, rfl, rfl, rfl⟩
  | cons l ls ih =>
    rcases respond_cases h with ⟨d, hd⟩ | ⟨hl, hends⟩ | ⟨e, hl, hbreaks⟩
    · rw [awaits?_cons hd, transcript_cons hd]
      rcases ih (h.2 d hd)
        with ⟨c', hc', hnone, hlength⟩ | ⟨before, l', after, c', rfl, hc', hlength, hstop⟩
      · exact .inl ⟨c', hc', hnone, congrArg (· + 1) hlength⟩
      · refine .inr ⟨l :: before, l', after, c', rfl, ?_, congrArg (· + 1) hlength, hstop⟩
        rw [awaits?_cons hd, hc']
    · rw [transcript_ends hends]
      exact .inr ⟨[], l, ls, c, rfl, rfl, rfl, .inl ⟨hl, rfl⟩⟩
    · rw [transcript_breaks hbreaks]
      exact .inr ⟨[], l, ls, c, rfl, rfl, rfl, .inr ⟨e, hl, rfl⟩⟩

/-- As long as every run comes to an end, a fault leaves the console exactly if it comes to a line
that returns a value without a text, and then it is the fault of writing that value, whatever else
the lines compute, print or raise. If none does, the console answers all lines up to the end of the
input, or up to one that asks it to end. -/
theorem breaks_iff_unwritable (h : c.Terminates ls) :
    (∀ e, (c.transcript ls).2 = some e ↔
      ∃ before l after c', ls = before ++ l :: after ∧ c.awaits? before = some c' ∧
        c'.Unwritable l e ∧ (c.transcript ls).1.length = before.length + 1) ∧
    ((c.transcript ls).2 = none →
      (∃ c', c.awaits? ls = some c') ∧ (c.transcript ls).1.length = ls.length + 1 ∨
      ∃ before l after c', ls = before ++ l :: after ∧ c.awaits? before = some c' ∧ Closes l ∧
        (c.transcript ls).1.length = before.length + 1) := by
  refine ⟨fun e => ⟨fun hsome => ?_, ?_⟩, fun hnone => ?_⟩
  · rcases exists_stop h
      with ⟨c', -, hnone, -⟩ | ⟨before, l, after, c', hls, hc', hlength,
          ⟨-, hnone⟩ | ⟨e', hl, hsome'⟩⟩
    · simp [hnone] at hsome
    · simp [hnone] at hsome
    · obtain rfl : e' = e := by simpa [hsome'] using hsome
      exact ⟨before, l, after, c', hls, hc', hl, hlength⟩
  · rintro ⟨before, l, after, c', rfl, hc', hl, -⟩
    rw [(awaits?_append hc' _).1, transcript_breaks hl.breaks]
  · rcases exists_stop h
      with ⟨c', hc', -, hlength⟩ | ⟨before, l, after, c', hls, hc', hlength,
          ⟨hl, -⟩ | ⟨e, -, hsome⟩⟩
    · exact .inl ⟨⟨c', hc'⟩, hlength⟩
    · exact .inr ⟨before, l, after, c', hls, hc', hl, hlength⟩
    · simp [hnone] at hsome

/-- Squares a number until it has too many digits to be written, and returns it. -/
def squaring : String := "for i range(13) \x7b x = x * x \x7d return x"

/-- A new machine with 10 under the name `x`. -/
def tenBound : Machine := ⟨Machine.initial.scopes.define 0 "x" (.int 10), "", #[], 0⟩

theorem unwritable_squaring :
    Unwritable ⟨tenBound⟩ (.text squaring) (.value .integerUnwritable) := by
  have hrun :
      (tenBound.exec (runSource squaring)).unwritable? = some (.value .integerUnwritable) := by
    decide +kernel
  exact ⟨rfl, rfl, hrun⟩

theorem breaks_squaring :
    Console.new.Terminates [.text "x = 10", .text squaring, .text "1"] ∧
      (Console.perform [.text "x = 10", .text squaring, .text "1"]).escaped =
        some (.value .integerUnwritable) := by
  have hleaves : leaves "x = 10" = false := rfl
  have hblank : blank "x = 10" = false := rfl
  have hten : Console.new.machine.exec (runSource "x = 10") = ⟨.ok (.int 10), tenBound⟩ := rfl
  have hshows : (Console.new.machine.exec (runSource "x = 10")).Shows "10\n" := by
    rw [hten]
    exact .value (v := .int 10) rfl (by simp) rfl
  have hnext : (Console.new.respond (.text "x = 10")).next = .waits ⟨tenBound⟩ := by
    rw [respond_of_shows hleaves hblank hshows, hten]
    rfl
  have hlines : Console.new.Terminates [.text "x = 10", .text squaring, .text "1"] := by
    refine terminates_of_shows hleaves hblank hshows ?_
    rw [hten]
    exact unwritable_squaring.terminates
  have htwo :
      (Console.new.transcript [.text "x = 10", .text squaring, .text "1"]).1.length = 2 := by
    rw [transcript_cons hnext, transcript_breaks unwritable_squaring.breaks,
      List.length_cons, List.length_singleton]
  have hescaped := ((breaks_iff_unwritable hlines).1 _).mpr
    ⟨[.text "x = 10"], _, [.text "1"], _, rfl, awaits?_cons hnext, unwritable_squaring, htwo⟩
  exact ⟨hlines, by simp only [perform_eq, hescaped]⟩

end Survival

section Sessions

variable {lines : List String}

/-- Every outcome of the lines that are run has a text. -/
def Presentable (lines : List String) : Prop :=
  ∀ o ∈ Machine.initial.steps (sources lines), ∃ t, o.Shows t

/-- What is printed at the end: nothing at a line that asks for it. -/
def closing (lines : List String) : String := if lines.any leaves then "" else "\nGoodbye!\n"

/-- Lines that do not ask for the end are answered as the steps of a session are shown, and blank
ones with nothing. -/
theorem awaits?_session (hl : ∀ s ∈ lines, leaves s = false)
    (h : ∀ o ∈ c.machine.steps (lines.filter fun s => !blank s), ∃ t, o.Shows t) :
    c.awaits? (lines.map .text) = some ⟨c.machine.afterSteps (lines.filter fun s => !blank s)⟩ ∧
      ∃ rs ts, c.replies (lines.map .text) = rs.map (· ++ prompt) ∧
        List.Forall₂ Outcome.Shows (c.machine.steps (lines.filter fun s => !blank s)) ts ∧
        String.join rs = String.join ts := by
  induction lines generalizing c with
  | nil => exact ⟨rfl, [], [], rfl, .nil, rfl⟩
  | cons s lines ih =>
    obtain ⟨hs, hl⟩ := List.forall_mem_cons.mp hl
    cases hb : blank s with
    | true =>
      have hfilter : (s :: lines).filter (fun s => !blank s) = lines.filter fun s => !blank s := by
        simp [hb]
      have hreply : c.respond (.text s) = c.goOn "" := respond_blank hs hb
      have hnext : (c.respond (.text s)).next = .waits c := by rw [hreply]; rfl
      rw [hfilter] at h ⊢
      obtain ⟨hawaits, rs, ts, hrs, hts, hjoin⟩ := ih hl h
      refine ⟨(awaits?_cons hnext).trans hawaits, "" :: rs, ts, ?_, hts, ?_⟩
      · rw [List.map_cons, replies_cons hnext, hrs, hreply]
        rfl
      · rw [← hjoin, String.join_cons, String.empty_append]
    | false =>
      have hfilter :
          (s :: lines).filter (fun s => !blank s) = s :: lines.filter fun s => !blank s := by
        simp [hb]
      rw [hfilter] at h ⊢
      obtain ⟨⟨t, ht⟩, h⟩ := List.forall_mem_cons.mp h
      have hreply := respond_of_shows hs hb ht
      have hnext :
          (c.respond (.text s)).next = .waits ⟨(c.machine.exec (runSource s)).machine.rested⟩ := by
        rw [hreply]
        rfl
      obtain ⟨hawaits, rs, ts, hrs, hts, hjoin⟩ :=
        ih (c := ⟨(c.machine.exec (runSource s)).machine.rested⟩) hl h
      refine ⟨(awaits?_cons hnext).trans hawaits, t :: rs, t :: ts, ?_, .cons ht hts, ?_⟩
      · rw [List.map_cons, replies_cons hnext, hrs, hreply]
        rfl
      · rw [String.join_cons, String.join_cons, hjoin]

/-- The lines from the first that asks for the end come to nothing more. -/
theorem transcript_dropWhile (c : Console) (lines : List String) :
    c.transcript ((lines.dropWhile fun s => !leaves s).map .text) = ([closing lines], none) ∧
      c.last ((lines.dropWhile fun s => !leaves s).map .text) = c := by
  induction lines with
  | nil => exact ⟨rfl, rfl⟩
  | cons s lines ih =>
    cases hs : leaves s with
    | true =>
      have hreply : c.respond (.text s) = ⟨"", .ends⟩ := respond_leaves hs
      have hends : (c.respond (.text s)).next = .ends := by rw [hreply]
      rw [List.dropWhile_cons_of_neg (by simp [hs]), List.map_cons,
        transcript_ends hends, hreply, last, hends]
      simp [closing, hs]
    | false =>
      have hclosing : closing (s :: lines) = closing lines := by simp [closing, hs]
      rw [List.dropWhile_cons_of_pos (by simp [hs]), hclosing]
      exact ih

theorem answer_waits (h : (answer o).next = .waits c) : c = ⟨o.machine.rested⟩ := by
  by_cases ho : o.ending = .error .unfinished
  · unfold answer at h
    rw [ho] at h
    cases h
  · rcases answer_cases ho with ⟨t, ht⟩ | ⟨e, ho⟩
    · rw [ht] at h
      cases h
      rfl
    · rw [answer_unwritable ho] at h
      cases h

/-- Nothing is left printed while the console waits. -/
theorem output_of_awaits? (hc : c.machine.output = "") (h : c.awaits? ls = some c') :
    c'.machine.output = "" := by
  induction ls generalizing c with
  | nil =>
    cases h
    exact hc
  | cons l ls ih =>
    cases hnext : (c.respond l).next with
    | ends | breaks | hangs =>
      rw [awaits?, hnext] at h
      cases h
    | waits d =>
      rw [awaits?_cons hnext] at h
      refine ih ?_ h
      cases l with
      | ended => cases hnext
      | interrupt =>
        cases hnext
        exact hc
      | text s =>
        cases hl : leaves s with
        | true =>
          rw [respond_leaves hl] at hnext
          cases hnext
        | false =>
          cases hb : blank s with
          | true =>
            rw [respond_blank hl hb] at hnext
            cases hnext
            exact hc
          | false =>
            rw [respond_source hl hb] at hnext
            rw [answer_waits hnext]
            rfl

/-- A source that cannot be read leaves the console as it was. -/
theorem respond_unreadable {e : Fault} (hc : c.machine.output = "") (hl : leaves s = false)
    (he : parse s = .error e) :
    (c.respond (.text s)).next = .waits c := by
  cases hb : blank s with
  | true =>
    rw [respond_blank hl hb]
    rfl
  | false =>
    have hrun : c.machine.exec (runSource s) = ⟨.error (.fault e), c.machine⟩ := by
      unfold runSource
      rw [he]
      rfl
    have hrested : c.machine.rested = c.machine := by
      unfold Machine.rested
      rw [← hc]
    rw [respond_source hl hb, hrun, answer_of_shows (.fault rfl), hrested]
    rfl

/-- A line that cannot be read can be left out: what is printed after every other line stays the
same, and so does the console in the end. -/
theorem transcript_without {e : Fault} (hc : c.machine.output = "") (hl : leaves s = false)
    (he : parse s = .error e) (before after : List Line) :
    c.transcript (before ++ after) =
        ((c.transcript (before ++ .text s :: after)).1.eraseIdx before.length,
          (c.transcript (before ++ .text s :: after)).2) ∧
      c.last (before ++ after) = c.last (before ++ .text s :: after) := by
  cases hbefore : c.awaits? before with
  | none =>
    obtain ⟨hwith, hlast, hlength⟩ := awaits?_eq_none hbefore (.text s :: after)
    obtain ⟨hwithout, hlast', -⟩ := awaits?_eq_none hbefore after
    rw [hwith, hwithout, hlast, hlast', List.eraseIdx_of_length_le hlength]
    exact ⟨rfl, rfl⟩
  | some d =>
    obtain ⟨hwith, hlast, hlength⟩ := awaits?_append hbefore (.text s :: after)
    obtain ⟨hwithout, hlast', -⟩ := awaits?_append hbefore after
    have hnext := respond_unreadable (output_of_awaits? hc hbefore) hl he
    have herase :
        (c.replies before ++ (d.respond (.text s)).output :: (d.transcript after).1).eraseIdx
          before.length =
        c.replies before ++ (d.transcript after).1 := by
      rw [List.eraseIdx_append_of_length_le (Nat.le_of_eq hlength), hlength, Nat.sub_self,
        List.eraseIdx_cons_zero]
    rw [hwith, hwithout, hlast, hlast', transcript_cons hnext, last_cons hnext, herase]
    exact ⟨rfl, rfl⟩

/-- The console plays a session: it reads the lines up to the first that asks for the end, or all of
them, and prints `replies`, each followed by the prompt; together these are what is shown of the
outcomes of the session, and the machine is the one that the session leaves. -/
structure Plays (lines replies : List String) : Prop where
  transcript : Console.perform (lines.map .text) =
    ⟨0, banner :: (replies.map (· ++ prompt) ++ [closing lines]), "", none⟩
  consumed : replies.length = (lines.takeWhile fun s => !leaves s).length
  shown : ∃ texts, List.Forall₂ Outcome.Shows (Machine.initial.steps (sources lines)) texts ∧
    String.join replies = String.join texts
  machine : (Console.new.last (lines.map .text)).machine =
    Machine.initial.afterSteps (sources lines)

theorem Presentable.plays (h : Presentable lines) : ∃ replies, Plays lines replies := by
  have hlines :
      lines.takeWhile (fun s => !leaves s) ++ lines.dropWhile (fun s => !leaves s) = lines :=
    List.takeWhile_append_dropWhile
  have hbefore : ∀ s ∈ lines.takeWhile (fun s => !leaves s), leaves s = false := by
    intro s hs
    simpa using List.mem_takeWhile_imp hs
  obtain ⟨hwaits, rs, ts, hrs, hts, hjoin⟩ := awaits?_session (c := Console.new) hbefore h
  have hawaits : Console.new.awaits? ((lines.takeWhile fun s => !leaves s).map .text) =
      some ⟨Machine.initial.afterSteps (sources lines)⟩ := hwaits
  obtain ⟨htranscript, hlast, hlength⟩ :=
    awaits?_append hawaits ((lines.dropWhile fun s => !leaves s).map .text)
  obtain ⟨hrest, hend⟩ := transcript_dropWhile ⟨Machine.initial.afterSteps (sources lines)⟩ lines
  rw [← List.map_append, hlines] at htranscript hlast
  refine ⟨rs, ?_, ?_, ⟨ts, hts, hjoin⟩, ?_⟩
  · rw [perform_eq, htranscript, hrest, hrs]
    rfl
  · rw [hrs] at hlength
    simpa using hlength
  · rw [hlast, hend]

/-- As long as all outcomes have a text, the console plays the session of its lines. A line that
cannot be read can be left out, unless it is one that asks for the end, which is not read as a
source: what is printed after every other line stays the same, and so does the machine. -/
theorem plays_session (h : Presentable lines) :
    (∃ replies, Plays lines replies) ∧
      ∀ before s after e, lines = before ++ s :: after → leaves s = false → parse s = .error e →
        (Console.perform ((before ++ after).map .text)).parts =
          (Console.perform (lines.map .text)).parts.eraseIdx (before.length + 1) ∧
        (Console.new.last ((before ++ after).map .text)).machine =
          (Console.new.last (lines.map .text)).machine := by
  refine ⟨h.plays, ?_⟩
  rintro before s after e rfl hs he
  have hnew : Console.new.machine.output = "" := rfl
  obtain ⟨htranscript, hlast⟩ := transcript_without hnew hs he (before.map .text) (after.map .text)
  rw [List.map_append, List.map_append, List.map_cons, perform_eq, perform_eq,
    htranscript, hlast, List.length_map]
  exact ⟨rfl, rfl⟩

/-- Lines with a blank one among them, one that cannot be read, and one after the end. -/
def sampleLines : List String := ["x = 2", " ", "x $", "print(x)", "quit", "x"]

theorem presentable_sampleLines : Presentable sampleLines := by
  have hsteps : ∃ m, Machine.initial.steps (sources sampleLines) =
      [⟨.ok (.int 2), m⟩, ⟨.error (.fault (.lexical ⟨1, 3⟩ (.unexpectedCharacter '$'))), m⟩,
        ⟨.ok .null, { m with output := "2\n" }⟩] := ⟨_, rfl⟩
  obtain ⟨m, hsteps⟩ := hsteps
  unfold Presentable
  rw [hsteps]
  refine List.forall_mem_cons.mpr ⟨⟨_, .value rfl (by simp) rfl⟩, ?_⟩
  exact List.forall_mem_cons.mpr ⟨⟨_, .fault rfl⟩, List.forall_mem_singleton.mpr ⟨_, .nothing rfl⟩⟩

theorem plays_sampleLines :
    Presentable sampleLines ∧ (∃ replies, Plays sampleLines replies) ∧
      (Console.perform (["x = 2", " ", "print(x)", "quit", "x"].map .text)).parts =
        (Console.perform (sampleLines.map .text)).parts.eraseIdx 3 := by
  obtain ⟨hplays, hwithout⟩ := plays_session presentable_sampleLines
  exact ⟨presentable_sampleLines, hplays,
    (hwithout ["x = 2", " "] "x $" ["print(x)", "quit", "x"] _ rfl rfl rfl).1⟩

/-- A line that cannot be read as a source, for it ends in a blank that sources do not know, and
asks for the end. -/
def blankExit : String := "exit\x0c"

theorem blankExit_not_left_out :
    (∃ e, parse blankExit = .error e) ∧ Presentable [blankExit, "x = 1"] ∧ Presentable ["x = 1"] ∧
      (Console.perform (["x = 1"].map .text)).parts ≠
        (Console.perform ([blankExit, "x = 1"].map .text)).parts.eraseIdx 1 ∧
      (Console.new.last (["x = 1"].map .text)).machine ≠
        (Console.new.last ([blankExit, "x = 1"].map .text)).machine := by
  have hread : parse blankExit = .error (.lexical ⟨1, 5⟩ (.unexpectedCharacter '\x0c')) := rfl
  have hnone : Machine.initial.steps (sources [blankExit, "x = 1"]) = [] := rfl
  have hsome : ∃ m, Machine.initial.steps (sources ["x = 1"]) = [⟨.ok (.int 1), m⟩] := ⟨_, rfl⟩
  obtain ⟨m, hsome⟩ := hsome
  refine ⟨⟨_, hread⟩, ?_, ?_, ?_, ?_⟩
  · unfold Presentable
    rw [hnone]
    exact List.forall_mem_nil _
  · unfold Presentable
    rw [hsome]
    exact List.forall_mem_singleton.mpr ⟨_, .value rfl (by simp) rfl⟩
  · have hparts :
        (Console.perform (["x = 1"].map .text)).parts = [banner, "1\nflo> ", "\nGoodbye!\n"] := rfl
    have hexit : (Console.perform ([blankExit, "x = 1"].map .text)).parts = [banner, ""] := rfl
    rw [hparts, hexit]
    simp
  · intro heq
    have hbound :
        ((Console.new.last (["x = 1"].map .text)).machine.scopes.bindingsOf 0).length = 8 := rfl
    have hfree :
        ((Console.new.last ([blankExit, "x = 1"].map .text)).machine.scopes.bindingsOf 0).length =
          7 := rfl
    rw [heq, hfree] at hbound
    cases hbound

end Sessions
end Console
end FloScript
