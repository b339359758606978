import FloScript.Proofs.Leaving
import FloScript.Proofs.OptionalBraces

/-! The three forms of a function that returns the value of one expression: with an arrow, with a
block that returns the expression, and as an expression without a name. What follows the expression
differs in all of them, and none of it can change how the expression is read; so the first two are
one node, the third is that node without its name, and functions made from any of them in one scope
do the same when they are called. -/
namespace FloScript

namespace Parser

variable {us es ns ns' : List Token} {ps : List String} {e : Node}
  {f x o a l r q : Token} {k : Kind}

/-- A function with a name that returns the value of an expression. -/
def returner (name : Option String) (ps : List String) (e : Node) : Node :=
  .function name ps [.returning (some e)] false

theorem composes_arrowForm (hf : f.kind = .funcWord)
    (hx : x.kind = .identifier) (ho : o.kind = .lparen) (hps : NameList ps us)
    (ha : a.kind = .arrow) (he : Spells .expression e es k) :
    Composes .form (returner (some x.text) ps e) (f :: x :: o :: (us ++ a :: es)) k := by
  have hparts : ItemsPart .name ps (o :: us) .arrow := .given ho (hps.spells _)
  have hname : NamePart (some x.text) [x] (ahead (o :: us) .arrow) := .given hx
  exact .definition (.arrowFunction hf hname hparts ha he)

/-- A return of an expression in braces. -/
theorem composes_returnBlock (hl : l.kind = .lbrace) (hn : Newlines ns) (hr : r.kind = .returnWord)
    (he : Spells .expression e es .eof) (hn' : Newlines ns') (hq : q.kind = .rbrace) :
    Composes .block [.returning (some e)] (l :: (ns ++ (r :: (es ++ ns') ++ [q]))) k := by
  have hfollow : (ahead ns' .rbrace).continues = false := continues_ahead hn' rfl
  have hreturn : Composes .form (.returning (some e)) (r :: es) (ahead (ns' ++ []) .rbrace) := by
    rw [List.append_nil]
    exact .returning (.value hr (he.before hfollow))
  have hlines :
      Composes (.lines .rbrace) [.returning (some e)] ((r :: es) ++ (ns' ++ [])) .rbrace :=
    .cons hreturn.ofForm hn' (by decide) .nil
  rw [List.append_nil] at hlines
  exact .braces hl hn (by simp [hr]) hlines hq

theorem composes_blockForm (hf : f.kind = .funcWord)
    (hx : x.kind = .identifier) (ho : o.kind = .lparen) (hps : NameList ps us)
    (hl : l.kind = .lbrace) (hn : Newlines ns) (hr : r.kind = .returnWord)
    (he : Spells .expression e es .eof) (hn' : Newlines ns') (hq : q.kind = .rbrace) :
    Composes .form (returner (some x.text) ps e)
      (f :: x :: o :: (us ++ l :: (ns ++ (r :: (es ++ ns') ++ [q])))) k := by
  have hblock := composes_returnBlock (k := k) hl hn hr he hn' hq
  exact (Heading.function hf hx ho hps).composes (.inr hl) hblock

theorem spells_lambdaForm (ho : o.kind = .lparen) (hps : NameList ps us) (ha : a.kind = .arrow)
    (he : Spells .expression e es k) (hk : k.continues = false) :
    Spells .expression (returner none ps e) (o :: (us ++ a :: es)) k :=
  .ofPrimary (.lambda ho (hps.spells _) ha he) hk

end Parser

open FloScript.Parser

/-- Two values that do the same when they are called, whatever evaluates the nodes in them, with all
arguments and in all states. -/
def CalledAlike (g g' : Value) : Prop :=
  ∀ (ev : Evaluator) (args : List Value), ev.call g args = ev.call g' args

/-- What a call does does not depend on the label of the function. -/
theorem calledAlike_function (label label' : Nat) (c : Closure) :
    CalledAlike (.function label c) (.function label' c) := fun _ _ => rfl

/-- Evaluating a function node makes a function of the scope, whether or not it has a name. -/
theorem eval_function (rounds d scope : Nat) (name : Option String)
    (ps : List String) (ns : List Node) (isAsync : Bool) (m : Machine) :
    ∃ m', eval rounds (d + 1) (.function name ps ns isAsync) scope m =
      .ok (.function m.labels ⟨ps, ns, scope, isAsync⟩) m' := by
  let made : Machine := { m with labels := m.labels + 1 }
  let g : Value := .function m.labels ⟨ps, ns, scope, isAsync⟩
  have hlabel : Run.label m = .ok m.labels made := rfl
  cases name with
  | none => exact ⟨made, Run.bind_ok hlabel⟩
  | some x =>
    have hbound :
        Run.define scope x g made = .ok () { made with scopes := made.scopes.define scope x g } :=
      rfl
    have hrun : eval rounds (d + 1) (.function (some x) ps ns isAsync) scope m =
        (if x.isEmpty = true then pure g else Run.define scope x g >>= fun _ => pure g : Run Value)
        made :=
      Run.bind_ok hlabel
    rw [hrun]
    split
    · exact ⟨made, rfl⟩
    · exact ⟨_, Run.bind_ok hbound⟩

variable {us es : List Token} {ps : List String} {e : Node}
  {f x o a l r q : Token} {ns ns' : List Token}

/-- A function of one expression is the same node with an arrow and with a block that returns the
expression, and the expression without a name is that node but for the name. Each of them makes a
function, and functions made in one scope from any of them do the same when they are called. -/
theorem function_forms_agree (hps : NameList ps us) (he : Whole es e) (hf : f.kind = .funcWord)
    (hx : x.kind = .identifier) (ho : o.kind = .lparen)
    (ha : a.kind = .arrow) (hl : l.kind = .lbrace) (hr : r.kind = .returnWord)
    (hq : q.kind = .rbrace) (hn : Newlines ns) (hn' : Newlines ns') :
    (∀ t ts, t.kind.continues = false →
      statement (f :: x :: o :: (us ++ a :: (es ++ t :: ts))) =
        .ok (returner (some x.text) ps e) (t :: ts)) ∧
    (∀ t ts, statement (f :: x :: o :: (us ++ l :: (ns ++ r :: (es ++ (ns' ++ q :: t :: ts))))) =
      .ok (returner (some x.text) ps e) (t :: ts)) ∧
    (∀ t ts, t.kind.continues = false →
      expression (o :: (us ++ a :: (es ++ t :: ts))) = .ok (returner none ps e) (t :: ts)) ∧
    ∀ rounds d scope (name name' : Option String) (m m' : Machine), ∃ g m₁ g' m₁',
      eval rounds (d + 1) (returner name ps e) scope m = .ok g m₁ ∧
      eval rounds (d + 1) (returner name' ps e) scope m' = .ok g' m₁' ∧ CalledAlike g g' := by
  have hspelled := whole_iff_spells.mp he
  refine ⟨fun t ts ht => ?_, fun t ts => ?_, fun t ts ht => ?_,
    fun rounds d scope name name' m m' => ?_⟩
  · have hform := composes_arrowForm hf hx ho hps ha (hspelled.before ht)
    simpa using hform.ofForm.reads t ts rfl
  · have hform := composes_blockForm (k := t.kind) hf hx ho hps hl hn hr hspelled hn' hq
    simpa using hform.ofForm.reads t ts rfl
  · have hform := spells_lambdaForm ho hps ha (hspelled.before ht) ht
    simpa using hform.reads t ts rfl
  · obtain ⟨m₁, hg⟩ := eval_function rounds d scope name ps [.returning (some e)] false m
    obtain ⟨m₁', hg'⟩ := eval_function rounds d scope name' ps [.returning (some e)] false m'
    exact ⟨_, m₁, _, m₁', hg, hg', calledAlike_function _ _ _⟩

/-- A name as a token. -/
def nameToken (s : String) : Token := ⟨.identifier, .text s, ⟨0, 0⟩⟩

/-- The sum of two names. -/
def sumTokens : List Token := [nameToken "a", ⟨.plus, .text "+", ⟨0, 0⟩⟩, nameToken "b"]

def sumNode : Node := .binary (.identifier "a") "+" (.identifier "b")

theorem function_forms_agree_sum :
    NameList ["a", "b"] [nameToken "a", sample .comma, nameToken "b", sample .rparen] ∧
      Whole sumTokens sumNode ∧
    statement (sample .funcWord :: nameToken "f" :: sample .lparen ::
      ([nameToken "a", sample .comma, nameToken "b", sample .rparen] ++
        sample .arrow :: (sumTokens ++ [sample .newline, sample .eof]))) =
      .ok (returner (some "f") ["a", "b"] sumNode) [sample .newline, sample .eof] ∧
    statement (sample .funcWord :: nameToken "f" :: sample .lparen ::
      ([nameToken "a", sample .comma, nameToken "b", sample .rparen] ++
        sample .lbrace ::
        ([] ++ sample .returnWord :: (sumTokens ++ ([] ++ sample .rbrace :: [sample .eof]))))) =
      .ok (returner (some "f") ["a", "b"] sumNode) [sample .eof] ∧
    expression (sample .lparen :: ([nameToken "a", sample .comma, nameToken "b", sample .rparen] ++
      sample .arrow :: (sumTokens ++ [sample .eof]))) =
        .ok (returner none ["a", "b"] sumNode) [sample .eof] ∧
    ∃ g m g' m',
      eval 1 1 (returner (some "f") ["a", "b"] sumNode) Machine.globals .initial = .ok g m ∧
      eval 1 1 (returner none ["a", "b"] sumNode) Machine.globals m = .ok g' m' ∧
      CalledAlike g g' := by
  have hnames : NameList ["a", "b"] [nameToken "a", sample .comma, nameToken "b", sample .rparen] :=
    .cons (x := nameToken "a") (c := sample .comma) rfl rfl
      (.last (x := nameToken "b") (r := sample .rparen) rfl rfl)
  have hsum : Whole sumTokens sumNode :=
    whole_iff_spells.mpr (spells_of_eq_ok (e := sample .eof) rfl rfl)
  obtain ⟨harrow, hblock, hlambda, hcalls⟩ :=
    function_forms_agree hnames hsum (f := sample .funcWord) (x := nameToken "f")
      (o := sample .lparen) (a := sample .arrow) (l := sample .lbrace) (r := sample .returnWord)
    (q := sample .rbrace) rfl rfl rfl rfl rfl rfl rfl newlines_nil newlines_nil
  obtain ⟨m, hm⟩ :=
    eval_function 1 0 Machine.globals (some "f") ["a", "b"]
      [.returning (some sumNode)] false .initial
  obtain ⟨g, m₁, g', m', hg, hg', halike⟩ := hcalls 1 0 Machine.globals (some "f") none .initial m
  obtain rfl : m = m₁ := by
    rw [returner, hm] at hg
    injection hg
  exact ⟨hnames, hsum, harrow _ _ rfl, hblock _ _, hlambda _ _ rfl, g, m, g', m', hg, hg', halike⟩

end FloScript
