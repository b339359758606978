import FloScript.Proofs.NodeParts
import FloScript.Proofs.ParsingEnds
import FloScript.Proofs.Spelling
import FloScript.Proofs.ValueParts
import FloScript.Session

/-! The trees of source texts. The scanner gives every operator the text that belongs to its kind,
so the operators in a tree are those that evaluation knows; and what stands in the place of a node
without being one is a group of decorators. -/
namespace FloScript

/-- The texts of the operators between two operands. -/
def Operator.texts : List String :=
  ["+", "-", "*", "/", "%", "==", "!=", "<", ">", "<=", ">=", "&&", "||"]

theorem Operator.ofText?_eq_none_iff {s : String} :
    Operator.ofText? s = none ↔ s ∉ Operator.texts := by
  simp [Operator.ofText?, Operator.texts, List.lookup_eq_none_iff]

section Tokens

/-- The text of an operator. -/
def Kind.symbol? : Kind → Option String
  | plus => some "+"
  | minus => some "-"
  | multiply => some "*"
  | divide => some "/"
  | modulo => some "%"
  | equal => some "=="
  | notEqual => some "!="
  | lessThan => some "<"
  | greaterThan => some ">"
  | lessEqual => some "<="
  | greaterEqual => some ">="
  | and => some "&&"
  | or => some "||"
  | not => some "!"
  | _ => none

/-- If the token is an operator, its text is the one of its kind. -/
def Token.Apt (t : Token) : Prop := ∀ s, t.kind.symbol? = some s → t.text = s

theorem Kind.symbol?_ofWordText (w : String) : (Kind.ofWordText w).symbol? = none := by
  unfold Kind.ofWordText
  cases h : Kind.keywords.lookup w with
  | none => rfl
  | some k =>
    have hall : ∀ p ∈ Kind.keywords, p.2.symbol? = none := by decide
    obtain ⟨l₁, l₂, hl, -⟩ := List.lookup_eq_some_iff.mp h
    exact hall (w, k) (by rw [hl]; simp)

namespace Scanner

variable {lex : List Char} {kind : Kind} {v : Literal} {s t : Scanner}

theorem Spelling.symbol (h : Spelling lex kind (.ok v)) {x : String} (hx : kind.symbol? = some x) :
    v.display = x := by
  generalize hr : (.ok v : Except Fault Literal) = r at h
  cases h with
  | newline | string | number => cases hx
  | word => cases (Kind.symbol?_ofWordText _).symm.trans hx
  | pair hk =>
    cases hr
    unfold Kind.pairOperator? at hk
    split at hk <;> cases hk <;> cases hx <;> rfl
  | single hk =>
    cases hr
    unfold Kind.operator? at hk
    split at hk <;> cases hk <;> cases hx <;> rfl

/-- Reading on adds apt tokens only. -/
theorem Comes.apt (h : Comes s t) (hs : ∀ u ∈ s.tokens.toList, u.Apt) :
    ∀ u ∈ t.tokens.toList, u.Apt := by
  induction h with
  | refl s => exact hs
  | blank _ _ _ ih =>
    refine ih ?_
    rwa [tokens_skip]
  | @lexeme s u t c cs hr _ hl _ _ ih =>
    obtain ⟨n, l, hp, rfl⟩ := (lexeme_eq_ok_iff hr).mp hl
    refine ih fun w hw => ?_
    cases l with
    | none =>
      simp only [Scanner.take, tokens_skip] at hw
      exact hs w hw
    | some l =>
      simp only [Scanner.take, Array.toList_push, List.mem_append, List.mem_singleton] at hw
      rcases hw with hw | rfl
      · exact hs w hw
      · exact fun x hx => (spelling_of_piece hp).symbol hx

end Scanner

theorem tokensOf_apt {source : String} {ts : List Token} (h : tokensOf source = .ok ts) :
    ∀ t ∈ ts, t.Apt := by
  obtain ⟨s, hcomes, -, rfl⟩ := Scanner.tokensOf_eq_ok_iff.mp h
  refine List.forall_mem_append.mpr ⟨hcomes.apt (List.forall_mem_nil _), ?_⟩
  rintro t ht x hx
  obtain rfl := List.mem_singleton.mp ht
  cases hx

end Tokens

namespace Node

/-- Decorators, and nothing else. -/
def AreDecorators (ns : List Node) : Prop := ∀ n ∈ ns, ∃ name args, n = .decorator name args

/-- The node is one that evaluation knows, with an operator that it knows, or a group of at least
two decorators. -/
def Regular : Node → Prop
  | binary _ op _ => op ∈ Operator.texts
  | unary op _ => op = "-" ∨ op = "!"
  | group ns => 2 ≤ ns.length ∧ AreDecorators ns
  | blank | stray _ => False
  | _ => True

/-- The node and all that stands inside it is regular. -/
abbrev WhollyRegular : Node → Prop := Everywhere children Regular

variable {t : Node}

theorem whollyRegular_of_parts (h : t.Regular) (hparts : ∀ k ∈ t.children, k.WhollyRegular) :
    t.WhollyRegular :=
  everywhere_iff.mpr ⟨h, hparts⟩

theorem whollyRegular_lambda {ps : List String} (h : t.WhollyRegular) :
    (Parser.lambda ps t).WhollyRegular := by
  refine whollyRegular_of_parts trivial fun k hk => ?_
  obtain rfl := List.mem_singleton.mp hk
  refine whollyRegular_of_parts trivial fun k hk => ?_
  obtain rfl := List.mem_singleton.mp hk
  exact h

end Node

namespace Parser

open Node (WhollyRegular whollyRegular_of_parts whollyRegular_lambda AreDecorators)

variable {us : List Token} {k : Kind}

/-- All nodes of what a phrase stands for have the property. -/
def Shape.All (p : Node → Prop) : (s : Shape) → s.Carrier → Prop
  | .node, n => p n
  | .text, _ => True
  | .pair, a => p a.1 ∧ p a.2
  | .list s, xs => ∀ x ∈ xs, s.All p x

theorem whollyRegular_leaf {u : Token} {n : Node} (h : leaf? u = some n) : n.WhollyRegular := by
  unfold leaf? at h
  split at h <;> cases h <;> exact whollyRegular_of_parts trivial (List.forall_mem_nil _)

theorem binary_regular {u : Token} {n : Nat} (hu : u.Apt) (hk : u.kind ∈ operatorsAt n) :
    u.text ∈ Operator.texts := by
  have key : ∃ x, u.kind.symbol? = some x ∧ x ∈ Operator.texts := by
    revert hk
    match n with
    | 0 | 1 | 2 | 3 | 4 | 5 => cases u.kind <;> decide
    | n + 6 => simp [operatorsAt]
  obtain ⟨x, hx, hmem⟩ := key
  rwa [hu x hx]

theorem unary_regular {u : Token} (hu : u.Apt) (hk : u.kind = .not ∨ u.kind = .minus) :
    u.text = "-" ∨ u.text = "!" := by
  rcases hk with hk | hk
  · exact .inr (hu "!" (by rw [hk]; rfl))
  · exact .inl (hu "-" (by rw [hk]; rfl))

/-- One case for each rule; only operators need their tokens. -/
theorem Spells.regular {s : Shape} {c : Phrase s} {a : s.Carrier} (h : Spells c a us k)
    (hu : ∀ u ∈ us, u.Apt) :
    s.All WhollyRegular a := by
  induction h with
  | assignment _ _ _ _ ih =>
    obtain ⟨-, -, hv⟩ := List.forall_mem_append.mp hu |>.imp_right List.forall_mem_cons.mp
    exact whollyRegular_of_parts trivial (List.forall_mem_singleton.mpr (ih hv))
  | choice _ _ _ _ _ ihc iha ihb =>
    simp only [List.forall_mem_append, List.forall_mem_cons] at hu
    obtain ⟨hc, -, ha, -, hb⟩ := hu
    refine whollyRegular_of_parts trivial ?_
    exact List.forall_mem_cons.mpr
      ⟨ihc hc, List.forall_mem_cons.mpr ⟨iha ha, List.forall_mem_singleton.mpr (ihb hb)⟩⟩
  | value _ _ ih | operation _ _ ih | operand _ ih | level _ _ ih | accessed _ _ ih | base _ ih =>
    exact ih hu
  | binary _ ho _ ihl ihr =>
    obtain ⟨hl, hop, hr⟩ := List.forall_mem_append.mp hu |>.imp_right List.forall_mem_cons.mp
    refine whollyRegular_of_parts (binary_regular hop ho) ?_
    exact List.forall_mem_cons.mpr ⟨ihl hl, List.forall_mem_singleton.mpr (ihr hr)⟩
  | unary ho _ ih =>
    obtain ⟨hop, hx⟩ := List.forall_mem_cons.mp hu
    exact whollyRegular_of_parts (unary_regular hop ho) (List.forall_mem_singleton.mpr (ih hx))
  | await _ _ ih =>
    have hx := (List.forall_mem_cons.mp hu).2
    exact whollyRegular_of_parts trivial (List.forall_mem_singleton.mpr (ih hx))
  | member _ _ _ ih =>
    have he := (List.forall_mem_append.mp hu).1
    exact whollyRegular_of_parts trivial (List.forall_mem_singleton.mpr (ih he))
  | call _ _ _ ihf ihxs =>
    obtain ⟨hf, -, hxs⟩ := List.forall_mem_append.mp hu |>.imp_right List.forall_mem_cons.mp
    exact whollyRegular_of_parts trivial (List.forall_mem_cons.mpr ⟨ihf hf, ihxs hxs⟩)
  | index _ _ _ _ ihe ihi =>
    simp only [List.forall_mem_append, List.forall_mem_cons] at hu
    obtain ⟨he, -, hi, -⟩ := hu
    refine whollyRegular_of_parts trivial ?_
    exact List.forall_mem_cons.mpr ⟨ihe he, List.forall_mem_singleton.mpr (ihi hi)⟩
  | leaf h => exact whollyRegular_leaf h
  | parenthesized _ _ _ _ ih =>
    simp only [List.forall_mem_append, List.forall_mem_cons] at hu
    exact ih hu.2.1
  | skipped _ _ _ _ _ _ ih =>
    simp only [List.forall_mem_append, List.forall_mem_cons] at hu
    exact ih hu.2.2.1
  | lambda _ _ _ _ _ ih =>
    simp only [List.forall_mem_append, List.forall_mem_cons] at hu
    exact whollyRegular_lambda (ih hu.2.2.2)
  | thunk _ _ ih => exact whollyRegular_lambda (ih (List.forall_mem_cons.mp hu).2)
  | list _ _ _ _ ih =>
    simp only [List.forall_mem_append, List.forall_mem_cons] at hu
    exact whollyRegular_of_parts trivial (ih hu.2.2)
  | dict _ _ _ _ ih =>
    simp only [List.forall_mem_append, List.forall_mem_cons] at hu
    refine whollyRegular_of_parts trivial fun n hn => ?_
    obtain ⟨p, hp, hn⟩ := List.mem_flatMap.mp hn
    obtain ⟨hkey, hvalue⟩ := ih hu.2.2 p hp
    exact (List.forall_mem_cons.mpr ⟨hkey, List.forall_mem_singleton.mpr hvalue⟩ :
      ∀ n ∈ [p.1, p.2], _) n hn
  | name _ => trivial
  | named _ _ _ ih =>
    simp only [List.forall_mem_cons] at hu
    exact ⟨whollyRegular_of_parts trivial (List.forall_mem_nil _), ih hu.2.2⟩
  | keyed _ _ _ _ ihk ihv =>
    obtain ⟨hk, -, hv⟩ := List.forall_mem_append.mp hu |>.imp_right List.forall_mem_cons.mp
    exact ⟨ihk hk, ihv hv⟩
  | nil _ => exact List.forall_mem_nil _
  | cons _ _ _ _ _ _ _ _ _ ihx ihxs =>
    simp only [List.forall_mem_append] at hu
    exact List.forall_mem_cons.mpr ⟨ihx hu.1, ihxs hu.2.2.2⟩

section Clauses

theorem Returns.regular {n : Node} (h : Returns n us k) (hu : ∀ u ∈ us, u.Apt) :
    n.WhollyRegular := by
  cases h with
  | nothing => exact whollyRegular_of_parts trivial (List.forall_mem_nil _)
  | value _ he =>
    refine whollyRegular_of_parts trivial (List.forall_mem_singleton.mpr ?_)
    exact he.regular (List.forall_mem_cons.mp hu).2

theorem ArrowBranch.regular {ns : List Node} (h : ArrowBranch ns us k) (hu : ∀ u ∈ us, u.Apt) :
    ∀ n ∈ ns, n.WhollyRegular := by
  cases h with
  | returning h => exact List.forall_mem_singleton.mpr (h.regular hu)
  | expression h => exact List.forall_mem_singleton.mpr (h.regular hu)

theorem ArrowElse.regular {no : Option (List Node)} (h : ArrowElse no us k) (hu : ∀ u ∈ us, u.Apt) :
    ∀ n ∈ no.getD [], n.WhollyRegular := by
  cases h with
  | absent | dropped => exact List.forall_mem_nil _
  | given _ _ _ h =>
    simp only [List.forall_mem_append, List.forall_mem_cons] at hu
    exact h.regular hu.2.2.2

theorem ItemsPart.regular {s : Shape} {item : Phrase s} {xs : List s.Carrier}
    (h : ItemsPart item xs us k) (hu : ∀ u ∈ us, u.Apt) : ∀ x ∈ xs, s.All WhollyRegular x := by
  cases h with
  | given _ h => exact h.regular (List.forall_mem_cons.mp hu).2
  | absent => exact List.forall_mem_nil _

theorem Decorators.regular {ds : List Node} (h : Decorators ds us k) (hu : ∀ u ∈ us, u.Apt) :
    AreDecorators ds ∧ ∀ d ∈ ds, d.WhollyRegular := by
  induction h with
  | nil => exact ⟨List.forall_mem_nil _, List.forall_mem_nil _⟩
  | cons _ _ hxs _ _ _ ih =>
    simp only [List.forall_mem_append, List.forall_mem_cons] at hu
    obtain ⟨-, -, hus, -, hvs⟩ := hu
    obtain ⟨hds, hregular⟩ := ih hvs
    refine ⟨List.forall_mem_cons.mpr ⟨⟨_, _, rfl⟩, hds⟩, List.forall_mem_cons.mpr ⟨?_, hregular⟩⟩
    exact whollyRegular_of_parts trivial (hxs.regular hus)

/-- All nodes of what a clause stands for have the property. -/
def Clause.All (p : Node → Prop) : (c : Clause) → c.Carrier → Prop
  | .statement, n | .form, n | .function, n => p n
  | .block, ns | .lines _, ns => ∀ n ∈ ns, p n
  | .wordBlock _, b => ∀ n ∈ b.getD [], p n
  | .catcher, b => ∀ n ∈ b.2.getD [], p n

theorem Composes.regular {c : Clause} {a : c.Carrier} (h : Composes c a us k)
    (hu : ∀ u ∈ us, u.Apt) :
    c.All WhollyRegular a := by
  induction h with
  | statement _ _ ih => exact ih (List.forall_mem_append.mp hu).2
  | expression h _ => exact h.regular (List.forall_mem_append.mp hu).1
  | returning h => exact h.regular hu
  | arrowIf _ hc _ hb hno =>
    simp only [List.forall_mem_append, List.forall_mem_cons] at hu
    obtain ⟨-, hcs, -, hus, hds⟩ := hu
    refine whollyRegular_of_parts trivial (List.forall_mem_cons.mpr ⟨hc.regular hcs, ?_⟩)
    exact List.forall_mem_append.mpr ⟨hb.regular hus, hno.regular hds⟩
  | blockIf _ hc _ _ _ ihb ihno =>
    simp only [List.forall_mem_append, List.forall_mem_cons] at hu
    obtain ⟨-, hcs, hus, hds⟩ := hu
    refine whollyRegular_of_parts trivial (List.forall_mem_cons.mpr ⟨hc.regular hcs, ?_⟩)
    exact List.forall_mem_append.mpr ⟨ihb hus, ihno hds⟩
  | whileLoop _ hc _ ih =>
    simp only [List.forall_mem_append, List.forall_mem_cons] at hu
    exact whollyRegular_of_parts trivial (List.forall_mem_cons.mpr ⟨hc.regular hu.2.1, ih hu.2.2⟩)
  | forLoop _ _ hi _ ih =>
    simp only [List.forall_mem_append, List.forall_mem_cons] at hu
    exact whollyRegular_of_parts trivial
      (List.forall_mem_cons.mpr ⟨hi.regular hu.2.2.1, ih hu.2.2.2⟩)
  | trying _ _ _ _ ihb ihh ihf =>
    simp only [List.forall_mem_append, List.forall_mem_cons] at hu
    obtain ⟨-, hus, hhs, hfs⟩ := hu
    refine whollyRegular_of_parts trivial (List.forall_mem_append.mpr ⟨ihb hus, ?_⟩)
    exact List.forall_mem_append.mpr ⟨ihh hhs, ihf hfs⟩
  | definition _ ih => exact ih hu
  | decorated hds _ ih =>
    obtain ⟨hus, hvs⟩ := List.forall_mem_append.mp hu
    exact whollyRegular_of_parts trivial (List.forall_mem_cons.mpr ⟨ih hvs, (hds.regular hus).2⟩)
  | decorator hd _ => exact (hd.regular hu).2 _ List.mem_cons_self
  | decorators hds _ =>
    obtain ⟨hdecorators, hregular⟩ := hds.regular hu
    exact whollyRegular_of_parts ⟨by simp, hdecorators⟩ hregular
  | arrowFunction _ _ _ _ he =>
    simp only [List.forall_mem_append, List.forall_mem_cons] at hu
    obtain ⟨-, -, -, -, hvs⟩ := hu
    refine whollyRegular_of_parts trivial (List.forall_mem_singleton.mpr ?_)
    exact whollyRegular_of_parts trivial (List.forall_mem_singleton.mpr (he.regular hvs))
  | blockFunction _ _ _ _ _ ih =>
    simp only [List.forall_mem_append, List.forall_mem_cons] at hu
    exact whollyRegular_of_parts trivial (ih hu.2.2.2)
  | braces _ _ _ _ _ ih =>
    simp only [List.forall_mem_append, List.forall_mem_cons] at hu
    exact ih hu.2.2.1
  | single _ _ ih => exact List.forall_mem_singleton.mpr (ih hu)
  | nil => exact List.forall_mem_nil _
  | cons _ _ _ _ ihs ihss =>
    simp only [List.forall_mem_append] at hu
    exact List.forall_mem_cons.mpr ⟨ihs hu.1, ihss hu.2.2⟩
  | without | uncaught => exact List.forall_mem_nil _
  | after _ _ _ ih =>
    obtain ⟨-, -, hus⟩ := List.forall_mem_append.mp hu |>.imp_right List.forall_mem_cons.mp
    exact ih hus
  | caught _ _ _ _ ih =>
    simp only [List.forall_mem_append, List.forall_mem_cons] at hu
    exact ih hu.2.2.2

end Clauses

end Parser

theorem runSource_of_parse {source : String} {t : Node} (h : parse source = .ok t) :
    runSource source = eval roundLimit depthLimit t Machine.globals := by
  unfold runSource
  rw [h]
  rfl

theorem parse_eq_ok_iff {source : String} {t : Node} :
    parse source = .ok t ↔ ∃ ts, tokensOf source = .ok ts ∧ programOf ts = .ok t :=
  Value.except_bind_eq_ok

theorem parse_of_tokens {source : String} {t : Node} {ts : List Token} {n : Nat}
    (hts : Scanner.tokensFrom? n ⟨1, 1⟩ source.toList = some ts) (ht : programOf ts = .ok t) :
    parse source = .ok t :=
  parse_eq_ok_iff.mpr ⟨ts, Scanner.tokensOf_of_tokensFrom? hts, ht⟩

/-- All nodes in the tree of a source are regular. -/
theorem parse_whollyRegular {source : String} {t : Node} (h : parse source = .ok t) :
    t.WhollyRegular := by
  obtain ⟨ts, hts, ht⟩ := parse_eq_ok_iff.mp h
  obtain ⟨us, e, rfl, he, hne⟩ := Parser.tokensOf_ended hts
  obtain ⟨ss, hp, rfl⟩ := (Parser.programOf_eq_ok_iff hne he).mp ht
  have hapt := (List.forall_mem_append.mp (tokensOf_apt hts)).1
  cases hp with
  | intro _ _ hss =>
    exact Node.whollyRegular_of_parts trivial (hss.regular (List.forall_mem_append.mp hapt).2)

end FloScript
