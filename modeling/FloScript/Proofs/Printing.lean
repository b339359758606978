import FloScript.Proofs.Acceptance

/-! Printing of expressions that need no parentheses, and that reading undoes it. -/
namespace FloScript

/-- A token without its place. -/
abbrev Lexeme := Kind × Literal

def Token.lexeme (t : Token) : Lexeme := (t.kind, t.value)

namespace Lexeme

/-- A lexeme whose value is its text. -/
def plain (k : Kind) (s : String) : Lexeme := (k, .text s)

/-- The lexeme at a place. -/
def token (p : Position) (l : Lexeme) : Token := ⟨l.1, l.2, p⟩

@[simp] theorem lexeme_token (p : Position) (l : Lexeme) : (l.token p).lexeme = l := rfl

def name (s : String) : Lexeme := plain .identifier s

def comma : Lexeme := plain .comma ","

/-- Items with commas between them. -/
def joined : List (List Lexeme) → List Lexeme
  | [] => []
  | [x] => x
  | x :: y :: ys => x ++ comma :: joined (y :: ys)

/-- Items with commas between them, in brackets. -/
def enclosed (opening closing : Lexeme) (xs : List (List Lexeme)) : List Lexeme :=
  opening :: (joined xs ++ [closing])

end Lexeme

namespace Node

open Lexeme

/-- The kind of an operator between two operands, and the number of its level. -/
def operator? : String → Option (Kind × Nat)
  | "*" => some (.multiply, 0)
  | "/" => some (.divide, 0)
  | "%" => some (.modulo, 0)
  | "+" => some (.plus, 1)
  | "-" => some (.minus, 1)
  | "<" => some (.lessThan, 2)
  | ">" => some (.greaterThan, 2)
  | "<=" => some (.lessEqual, 2)
  | ">=" => some (.greaterEqual, 2)
  | "==" => some (.equal, 3)
  | "!=" => some (.notEqual, 3)
  | "&&" => some (.and, 4)
  | "||" => some (.or, 4 + 1)
  | _ => none

/-- The kind of an operator in front of its operand. -/
def sign? : String → Option Kind
  | "-" => some .minus
  | "!" => some .not
  | _ => none

/-- How loosely a node is bound: a base or an access not at all, then signs, then operators by their
level, and last what only stands as a full expression. -/
def looseness : Node → Nat
  | .unary .. | .await _ => 1
  | .binary _ op _ => (operator? op).elim 0 fun o => o.2 + 2
  | .assignment .. | .conditional .. | .function .. => Parser.topTier + 2
  | _ => 0

/-- Literals, which may be keys. -/
inductive IsLiteral : Node → Prop where
  | number (v : Literal) : IsLiteral (.number v)
  | string (v : Literal) : IsLiteral (.string v)
  | boolean (b : Bool) : IsLiteral (.boolean (.bool b))
  | null : IsLiteral .null

theorem IsLiteral.looseness {x : Node} (h : x.IsLiteral) : x.looseness = 0 := by
  cases h <;> rfl

/-- Expressions that can be written without parentheses. -/
inductive Levelled : Node → Prop where
  | literal {x : Node} : IsLiteral x → Levelled x
  | identifier (name : String) : Levelled (.identifier name)
  | binary {l r : Node} {op : String} {k : Kind} {n : Nat} : operator? op = some (k, n) →
      l.looseness ≤ n + 2 → r.looseness < n + 2 → Levelled l → Levelled r →
      Levelled (.binary l op r)
  | unary {op : String} {k : Kind} {x : Node} :
      sign? op = some k → x.looseness ≤ 1 → Levelled x → Levelled (.unary op x)
  | await {x : Node} : x.looseness ≤ 1 → Levelled x → Levelled (.await x)
  | assignment (name : String) {v : Node} : Levelled v → Levelled (.assignment name v)
  | call {f : Node} {xs : List Node} :
      f.looseness = 0 → Levelled f → (∀ x ∈ xs, Levelled x) → Levelled (.call f xs)
  | member {o : Node} (name : String) : o.looseness = 0 → Levelled o → Levelled (.member o name)
  | index {o i : Node} : o.looseness = 0 → Levelled o → Levelled i → Levelled (.index o i)
  | list {xs : List Node} : (∀ x ∈ xs, Levelled x) → Levelled (.list xs)
  | dict {ps : List (Node × Node)} :
      (∀ p ∈ ps, p.1.IsLiteral) → (∀ p ∈ ps, Levelled p.2) → Levelled (.dict ps)
  | choice {c a b : Node} :
      c.looseness ≤ Parser.topTier + 1 → Levelled c → Levelled a → Levelled b →
      Levelled (.conditional c [a] (some [b]))
  | lambda (ps : List String) {e : Node} : Levelled e → Levelled (Parser.lambda ps e)

mutual

/-- The lexemes of an expression, with commas between items and nothing that could be left out. -/
def lexemes : Node → List Lexeme
  | .number v => [(.number, v)]
  | .string v => [(.string, v)]
  | .boolean (.bool true) => [plain .trueWord "true"]
  | .boolean (.bool false) => [plain .falseWord "false"]
  | .null => [plain .nullWord "null"]
  | .identifier x => [name x]
  | .binary l op r => l.lexemes ++ plain ((operator? op).elim .unknown (·.1)) op :: r.lexemes
  | .unary op x => plain ((sign? op).getD .unknown) op :: x.lexemes
  | .await x => plain .awaitWord "await" :: x.lexemes
  | .assignment x v => name x :: plain .assign "=" :: v.lexemes
  | .call f xs => f.lexemes ++ enclosed (plain .lparen "(") (plain .rparen ")") (itemLexemes xs)
  | .member o x => o.lexemes ++ [plain .dot ".", name x]
  | .index o i => o.lexemes ++ plain .lbracket "[" :: (i.lexemes ++ [plain .rbracket "]"])
  | .list xs => enclosed (plain .lbracket "[") (plain .rbracket "]") (itemLexemes xs)
  | .dict ps => enclosed (plain .lbrace "\x7b") (plain .rbrace "\x7d") (pairLexemes ps)
  | .conditional c a b =>
    c.lexemes ++ plain .question "?" ::
      (joined (itemLexemes a) ++ plain .colon ":" :: branchLexemes b)
  | .function _ ps b _ =>
    enclosed (plain .lparen "(") (plain .rparen ")") (ps.map fun x => [name x]) ++
      plain .arrow "=>" :: joined (itemLexemes b)
  | .returning (some e) => e.lexemes
  | _ => []

def itemLexemes : List Node → List (List Lexeme)
  | [] => []
  | x :: xs => x.lexemes :: itemLexemes xs

def pairLexemes : List (Node × Node) → List (List Lexeme)
  | [] => []
  | (k, v) :: ps => (k.lexemes ++ plain .colon ":" :: v.lexemes) :: pairLexemes ps

def branchLexemes : Option (List Node) → List Lexeme
  | none => []
  | some b => joined (itemLexemes b)

end

theorem itemLexemes_eq (xs : List Node) : itemLexemes xs = xs.map lexemes := by
  induction xs with
  | nil => rfl
  | cons x xs ih => simp [itemLexemes, ih]

/-- The lexemes of a key and its value. -/
def pairLexeme (p : Node × Node) : List Lexeme := p.1.lexemes ++ plain .colon ":" :: p.2.lexemes

theorem pairLexemes_eq (ps : List (Node × Node)) : pairLexemes ps = ps.map pairLexeme := by
  induction ps with
  | nil => rfl
  | cons p ps ih => simp [pairLexemes, pairLexeme, ih]

theorem operator?_mem {op : String} {k : Kind} {n : Nat} (h : operator? op = some (k, n)) :
    k ∈ Parser.operatorsAt n ∧ n < Parser.topTier := by
  unfold operator? at h
  split at h <;> cases h <;> decide

theorem sign?_kind {op : String} {k : Kind} (h : sign? op = some k) : k = .not ∨ k = .minus := by
  unfold sign? at h
  split at h <;> cases h <;> simp

end Node

namespace Parser

open Lexeme Node

variable {t : Node} {us : List Token} {k : Kind} {n : Nat} {o : Token} {s : String}

theorem kind_of_lexeme (h : o.lexeme = plain k s) : o.kind = k := congrArg Prod.fst h

theorem text_of_lexeme (h : o.lexeme = plain k s) : o.text = s := by
  have hv : o.value = .text s := congrArg Prod.snd h
  simp [Token.text, hv, Literal.display]

theorem lexemes_split {l r : List Lexeme} {x : Lexeme} (h : us.map Token.lexeme = l ++ x :: r) :
    ∃ ws o vs, us = ws ++ o :: vs ∧ ws.map Token.lexeme = l ∧ o.lexeme = x ∧
      vs.map Token.lexeme = r := by
  obtain ⟨ws, os, rfl, hw, ho⟩ := List.map_eq_append_iff.mp h
  obtain ⟨o, vs, rfl, hx, hv⟩ := List.map_eq_cons_iff.mp ho
  exact ⟨ws, o, vs, rfl, hw, hx, hv⟩

/-- A token of this kind cannot go on with an operand of level `n`. -/
def Stops (n : Nat) (k : Kind) : Prop := k.opensAccess = false ∧ ∀ j < n, k ∉ operatorsAt j

instance (n : Nat) (k : Kind) : Decidable (Stops n k) := inferInstanceAs (Decidable (_ ∧ _))

theorem stops_of_not_continues (hk : k.continues = false) (n : Nat) : Stops n k := by
  refine ⟨?_, fun j _ => not_mem_operatorsAt hk j⟩
  simp only [Kind.continues, Bool.or_eq_false_iff] at hk
  exact hk.1

theorem stops_of_operator (hk : k ∈ operatorsAt n) : Stops n k := by
  revert hk
  match n with
  | 0 | 1 | 2 | 3 | 4 | 5 => cases k <;> decide
  | n + 6 => simp [operatorsAt]

/-- The tokens spell the expression where something as loose as the given number may stand: under an
access, under a sign, in a chain of operators of one level, or as a full expression. -/
inductive SpelledAt (t : Node) (us : List Token) : Nat → Prop where
  | base : (∀ k, Spells .spine t us k) → SpelledAt t us 0
  | signed : (∀ k, k.opensAccess = false → Spells (.tier 0) t us k) → SpelledAt t us 1
  | chain {n : Nat} :
      n < topTier → (∀ k, Stops n k → Spells (.chain n) t us k) → SpelledAt t us (n + 2)
  | full : (∀ k, k.continues = false → Spells .expression t us k) → SpelledAt t us (topTier + 2)

namespace SpelledAt

theorem spine (h : SpelledAt t us 0) (k : Kind) : Spells .spine t us k := by
  cases h with
  | base h => exact h k

theorem inChain (h : SpelledAt t us (n + 2)) (hn : n < topTier) (hk : Stops n k) :
    Spells (.chain n) t us k := by
  cases h with
  | chain _ h => exact h k hk
  | full _ => omega

theorem tier (h : SpelledAt t us (n + 1)) (hn : n ≤ topTier) (hk : Stops n k) :
    Spells (.tier n) t us k := by
  cases n with
  | zero =>
    cases h with
    | signed h => exact h k hk.1
  | succ n =>
    have hc := h.inChain hn ⟨hk.1, fun j hj => hk.2 j (by omega)⟩
    exact .level hc (hk.2 n (by omega))

theorem succ (h : SpelledAt t us n) (hn : n < topTier + 2) : SpelledAt t us (n + 1) := by
  cases h with
  | base h => exact .signed fun k hk => .accessed (h k) hk
  | signed h => exact .chain (by decide) fun k hk => .operand (h k hk.1)
  | @chain n hm h =>
    rcases Nat.eq_or_lt_of_le (Nat.succ_le_of_lt hm) with he | hlt
    · have hfull : ∀ k, k.continues = false → Spells .expression t us k := by
        intro k hk
        have ht := Spells.level (h k (stops_of_not_continues hk n)) (not_mem_operatorsAt hk n)
        exact ht.ofTier hm hk
      rw [show n + 2 + 1 = topTier + 2 by omega]
      exact .full hfull
    · refine .chain hlt fun k hk => .operand (.level (h k ?_) (hk.2 n (by omega)))
      exact ⟨hk.1, fun j hj => hk.2 j (by omega)⟩
  | full => omega

/-- Where something looser may stand, something tighter may too. -/
theorem loosen {m : Nat} (h : SpelledAt t us m) (hmn : m ≤ n) (hn : n ≤ topTier + 2) :
    SpelledAt t us n := by
  induction hmn with
  | refl => exact h
  | step _ ih => exact (ih (by omega)).succ (by omega)

theorem le (h : SpelledAt t us n) : n ≤ topTier + 2 := by
  cases h with
  | chain hn _ => omega
  | _ => decide

theorem expression (h : SpelledAt t us n) (hk : k.continues = false) :
    Spells .expression t us k := by
  cases h.loosen h.le (Nat.le_refl _) with
  | chain hlt _ => omega
  | full h => exact h k hk

end SpelledAt

/-- A closing bracket. -/
def Closes (k : Kind) : Prop := k = .rparen ∨ k = .rbracket ∨ k = .rbrace

section Items

variable {sh : Shape} {item : Phrase sh} {close : Kind} {lines : Bool}

theorem Closes.not_continues (h : Closes k) : k.continues = false := by
  rcases h with rfl | rfl | rfl <;> rfl

theorem Closes.not_opened (h : Closes close) (hi : item.Listed) (ho : item.Opens k) :
    k ≠ close ∧ k ≠ .newline := by
  have hk : k.opensExpression = true := by
    cases hi with
    | expression => exact ho
    | pair => exact ho
    | name => rw [show k = .identifier from ho]; rfl
  constructor
  · rintro rfl
    rcases h with rfl | rfl | rfl <;> cases hk
  · rintro rfl
    cases hk

theorem Closes.not_newline {xs : List sh.Carrier} (hc : Closes close) (hi : item.Listed)
    (h : Spells (.items close lines item) xs us k) : ahead us k ≠ .newline := by
  rcases h.opens with ho | ho
  · rw [ho]
    rintro rfl
    rcases hc with hc | hc | hc <;> cases hc
  · exact (hc.not_opened hi ho).2

theorem spells_cons {x : sh.Carrier} {xs : List sh.Carrier} {vs : List Token} (cs : List Token)
    (hc : Closes close) (hi : item.Listed) (hx : Spells item x us (ahead (cs ++ vs) k))
    (hs : Separator cs (ahead vs k))
    (hv : Spells (.items close lines item) xs vs k) :
    Spells (.items close lines item) (x :: xs) (us ++ (cs ++ vs)) k := by
  have ho := hc.not_opened hi hx.opens
  rw [← ahead_append] at ho
  change Spells _ _ (us ++ (cs ++ ([] ++ vs))) k
  exact .cons hi ho.1 (fun _ => ho.2) hx hs (by simp) (fun _ => rfl)
    (fun _ => hc.not_newline hi hv) hv

/-- Items in brackets, from what each of them is written as. -/
theorem spells_joined (hc : Closes close) (hi : item.Listed) (write : sh.Carrier → List Lexeme)
    {text : String} {xs : List sh.Carrier}
    (h : ∀ x ∈ xs, ∀ us, us.map Token.lexeme = write x →
      ∀ k, k.continues = false → Spells item x us k)
    (hus : us.map Token.lexeme = joined (xs.map write) ++ [plain close text]) :
    Spells (.items close lines item) xs us k := by
  induction xs generalizing us with
  | nil =>
    obtain ⟨c, us, rfl, hl, hu⟩ := List.map_eq_cons_iff.mp hus
    obtain rfl := List.map_eq_nil_iff.mp hu
    exact .nil (kind_of_lexeme hl)
  | cons x xs ih =>
    have hx := h x (by simp)
    cases xs with
    | nil =>
      obtain ⟨ws, vs, rfl, hw, hv⟩ := List.map_eq_append_iff.mp hus
      have hnil : Spells (.items close lines item) [] vs k := ih (by simp) hv
      obtain ⟨c, vs, rfl, hl, -⟩ := List.map_eq_cons_iff.mp hv
      have hk : c.kind = close := kind_of_lexeme hl
      refine spells_cons [] hc hi (hx ws hw _ ?_) (.nothing ?_) hnil
      · change c.kind.continues = false
        rw [hk]
        exact hc.not_continues
      · change c.kind ≠ .comma
        rw [hk]
        rintro rfl
        rcases hc with hc | hc | hc <;> cases hc
    | cons y ys =>
      simp only [List.map_cons, joined, List.append_assoc, List.cons_append] at hus
      obtain ⟨ws, vs, rfl, hw, hv⟩ := List.map_eq_append_iff.mp hus
      obtain ⟨c, vs, rfl, hl, hv⟩ := List.map_eq_cons_iff.mp hv
      have hk : c.kind = .comma := kind_of_lexeme hl
      have hys := ih (fun z hz => h z (List.mem_cons_of_mem _ hz)) hv
      refine spells_cons [c] hc hi (hx ws hw _ ?_) (.comma hk) hys
      change c.kind.continues = false
      rw [hk]
      rfl

end Items

theorem leaf?_of_literal (h : t.IsLiteral) (hus : us.map Token.lexeme = t.lexemes) :
    ∃ o, us = [o] ∧ leaf? o = some t ∧ o.kind ≠ .identifier := by
  cases h with
  | boolean b =>
    cases b <;>
    · obtain ⟨o, rfl, ho⟩ := List.map_eq_singleton_iff.mp hus
      have hk := kind_of_lexeme ho
      exact ⟨o, rfl, by simp [leaf?, hk], by simp [hk]⟩
  | null =>
    obtain ⟨o, rfl, ho⟩ := List.map_eq_singleton_iff.mp hus
    have hk := kind_of_lexeme ho
    exact ⟨o, rfl, by simp [leaf?, hk], by simp [hk]⟩
  | number v | string v =>
    obtain ⟨o, rfl, ho⟩ := List.map_eq_singleton_iff.mp hus
    have hk := congrArg Prod.fst ho
    have hv := congrArg Prod.snd ho
    simp only [Token.lexeme] at hk hv
    exact ⟨o, rfl, by simp [leaf?, hk, hv], by simp [hk]⟩

theorem spelled_identifier {x : String} (h : o.lexeme = name x) :
    SpelledAt (.identifier x) [o] 0 := by
  have hl : leaf? o = some (.identifier x) := by
    simp [leaf?, kind_of_lexeme h, text_of_lexeme h]
  exact .base fun k => .base (.leaf hl)

theorem spells_name {x : String} (h : us.map Token.lexeme = [name x]) : Spells .name x us k := by
  obtain ⟨o, rfl, ho⟩ := List.map_eq_singleton_iff.mp h
  rw [← text_of_lexeme ho]
  exact .name (kind_of_lexeme ho)

theorem spells_pair {p : Node × Node} (hkey : p.1.IsLiteral)
    (hvalue : ∀ vs, vs.map Token.lexeme = p.2.lexemes →
      ∀ k, k.continues = false → Spells .expression p.2 vs k)
    (h : us.map Token.lexeme = pairLexeme p) (hk : k.continues = false) : Spells .pair p us k := by
  obtain ⟨ws, c, vs, rfl, hw, hc, hv⟩ := lexemes_split h
  obtain ⟨o, rfl, ho, hi⟩ := leaf?_of_literal hkey hw
  exact .keyed (.ofPrimary (.leaf ho) rfl) hi (kind_of_lexeme hc) (hvalue vs hv k hk)

theorem spells_list {xs : List Node} (ho : o.kind = .lbracket) (h : Spells .elements xs us k) :
    Spells .primary (.list xs) (o :: us) k := by
  have hn := Closes.not_newline (.inr (.inl rfl)) .expression h
  change Spells .primary (.list xs) (o :: ([] ++ us)) k
  exact .list ho (by simp) hn h

theorem spells_dict {ps : List (Node × Node)} (ho : o.kind = .lbrace) (h : Spells .pairs ps us k) :
    Spells .primary (.dict ps) (o :: us) k := by
  have hn := Closes.not_newline (.inr (.inr rfl)) .pair h
  change Spells .primary (.dict ps) (o :: ([] ++ us)) k
  exact .dict ho (by simp) hn h

theorem spelled_of_lexemes (h : t.Levelled) (hus : us.map Token.lexeme = t.lexemes) :
    SpelledAt t us t.looseness := by
  induction h generalizing us with
  | literal h =>
    obtain ⟨o, rfl, ho, -⟩ := leaf?_of_literal h hus
    rw [h.looseness]
    exact .base fun k => .base (.leaf ho)
  | identifier x =>
    obtain ⟨o, rfl, ho⟩ := List.map_eq_singleton_iff.mp hus
    exact spelled_identifier ho
  | @binary l r op k n ho hl hr _ _ ihl ihr =>
    simp only [lexemes, ho, Option.elim] at hus
    obtain ⟨ws, o, vs, rfl, hw, hx, hv⟩ := lexemes_split hus
    obtain ⟨hk, hn⟩ := operator?_mem ho
    have hok := kind_of_lexeme hx
    have hleft := (ihl hw).loosen hl (by omega)
    have hright := (ihr hv).loosen (Nat.le_of_lt_succ hr) (by omega)
    rw [show (Node.binary l op r).looseness = n + 2 by simp [looseness, ho], ← text_of_lexeme hx]
    refine .chain hn fun j hj => .binary ?_ (hok ▸ hk) (hright.tier (by omega) hj)
    exact hleft.inChain hn (hok ▸ stops_of_operator hk)
  | @unary op k x ho hl _ ih =>
    simp only [lexemes, ho, Option.getD] at hus
    obtain ⟨o, vs, rfl, hx, hv⟩ := List.map_eq_cons_iff.mp hus
    have hoperand := (ih hv).loosen hl (by decide)
    rw [← text_of_lexeme hx]
    refine .signed fun j hj => .unary ?_ (hoperand.tier (by decide) ⟨hj, by simp⟩)
    rw [kind_of_lexeme hx]
    exact sign?_kind ho
  | await hl _ ih =>
    obtain ⟨o, vs, rfl, hx, hv⟩ := List.map_eq_cons_iff.mp hus
    have hoperand := (ih hv).loosen hl (by decide)
    exact .signed fun j hj => .await (kind_of_lexeme hx) (hoperand.tier (by decide) ⟨hj, by simp⟩)
  | assignment x _ ih =>
    obtain ⟨o, es, rfl, hx, he⟩ := List.map_eq_cons_iff.mp hus
    obtain ⟨e, vs, rfl, hx', hv⟩ := List.map_eq_cons_iff.mp he
    have htarget := (spelled_identifier hx).loosen (n := topTier + 1) (by omega) (by omega)
    have hup := htarget.tier (k := .assign) (by omega) (by decide)
    exact .full fun k hk =>
      .assignment (.operation hup (by decide)) (kind_of_lexeme hx') ((ih hv).expression hk)
  | call hl _ _ ihf ihx =>
    simp only [lexemes, enclosed, itemLexemes_eq] at hus
    obtain ⟨ws, o, vs, rfl, hw, hx, hv⟩ := lexemes_split hus
    have hbase := hl ▸ ihf hw
    refine .base fun k => .call (hbase.spine _) (kind_of_lexeme hx) ?_
    exact spells_joined (.inl rfl) .expression lexemes
      (fun x hx us hu k hk => (ihx x hx hu).expression hk) hv
  | member x hl _ ih =>
    obtain ⟨ws, d, vs, rfl, hw, hd, hv⟩ := lexemes_split hus
    obtain ⟨o, rfl, ho⟩ := List.map_eq_singleton_iff.mp hv
    have hbase := hl ▸ ih hw
    rw [← text_of_lexeme ho]
    exact .base fun k => .member (hbase.spine _) (kind_of_lexeme hd) (kind_of_lexeme ho)
  | index hl _ _ iho ihi =>
    obtain ⟨ws, o, vs, rfl, hw, ho, hv⟩ := lexemes_split hus
    obtain ⟨is, cs, rfl, hi, hc⟩ := List.map_eq_append_iff.mp hv
    obtain ⟨c, rfl, hx⟩ := List.map_eq_singleton_iff.mp hc
    have hbase := hl ▸ iho hw
    exact .base fun k => .index (hbase.spine _) (kind_of_lexeme ho) ((ihi hi).expression rfl)
      (kind_of_lexeme hx)
  | list _ ih =>
    simp only [lexemes, enclosed, itemLexemes_eq] at hus
    obtain ⟨o, vs, rfl, ho, hv⟩ := List.map_eq_cons_iff.mp hus
    refine .base fun k => .base (spells_list (kind_of_lexeme ho) ?_)
    exact spells_joined (.inr (.inl rfl)) .expression lexemes
      (fun x hx us hu k hk => (ih x hx hu).expression hk) hv
  | dict hkeys _ ih =>
    simp only [lexemes, enclosed, pairLexemes_eq] at hus
    obtain ⟨o, vs, rfl, ho, hv⟩ := List.map_eq_cons_iff.mp hus
    refine .base fun k => .base (spells_dict (kind_of_lexeme ho) ?_)
    exact spells_joined (.inr (.inr rfl)) .pair pairLexeme
      (fun p hp us hu k hk => spells_pair (hkeys p hp)
        (fun vs hv k hk => (ih p hp hv).expression hk) hu hk) hv
  | choice hl _ _ _ ihc iha ihb =>
    simp only [lexemes, itemLexemes, branchLexemes, joined] at hus
    obtain ⟨ws, q, vs, rfl, hw, hq, hv⟩ := lexemes_split hus
    obtain ⟨as, c, bs, rfl, ha, hc, hb⟩ := lexemes_split hv
    have hcond := ((ihc hw).loosen hl (by omega)).tier (k := .question) (by omega) (by decide)
    refine .full fun k hk => .value ?_ (by rintro rfl; cases hk)
    exact .choice hcond (kind_of_lexeme hq) ((iha ha).expression rfl) (kind_of_lexeme hc)
      ((ihb hb).expression hk)
  | lambda ps _ ih =>
    simp only [lexemes, Parser.lambda, enclosed, itemLexemes, joined] at hus
    obtain ⟨ps', a, vs, rfl, hp, ha, hv⟩ := lexemes_split hus
    obtain ⟨o, ws, rfl, ho, hw⟩ := List.map_eq_cons_iff.mp hp
    have hps : Spells .parameters ps ws .arrow :=
      spells_joined (.inl rfl) .name (fun x => [name x]) (fun x _ us hu k _ => spells_name hu) hw
    refine .full fun k hk => .ofPrimary ?_ hk
    exact .lambda (kind_of_lexeme ho) hps (kind_of_lexeme ha) ((ih hv).expression hk)

/-- Reading undoes printing: whatever the places of the tokens and whatever comes after the first
token that ends the expression, the tree comes back and that token is the next one. -/
theorem expression_lexemes {r : Token} (h : t.Levelled) (hus : us.map Token.lexeme = t.lexemes)
    (hr : r.kind ∈ [Kind.eof, .newline, .semicolon, .comma, .rparen, .rbracket, .rbrace, .colon])
    (tl : List Token) : expression (us ++ r :: tl) = .ok t (r :: tl) := by
  have hk : r.kind.continues = false := by
    revert hr
    cases r.kind <;> decide
  exact ((spelled_of_lexemes h hus).expression hk).reads r tl rfl

/-- A tree with every form of expression. -/
def everyForm : Node :=
  .assignment "v" (.conditional
    (.binary (.identifier "a") "||"
      (.binary (.await (.call (.identifier "f") [.null])) "==" (.number (.int 1))))
    [Parser.lambda ["x", "y"]
      (.binary (.binary (.identifier "x") "-" (.identifier "y")) "-"
        (.binary (.unary "-" (.unary "!" (.identifier "x"))) "*" (.number (.int 2))))]
    (some [.index
      (.member (.dict [(.string (.text "k"), .list [.null, .boolean (.bool true)])]) "m")
      (.assignment "i" (.number (.int 0)))]))

theorem everyForm_levelled : everyForm.Levelled := by
  have hnumber (i : Int) : (Node.number (.int i)).Levelled := .literal (.number _)
  have hnull : Node.null.Levelled := .literal .null
  have hcall : (Node.call (.identifier "f") [.null]).Levelled :=
    .call rfl (.identifier _) (by simpa using hnull)
  have hcondition : (Node.binary (.identifier "a") "||"
      (.binary (.await (.call (.identifier "f") [.null])) "==" (.number (.int 1)))).Levelled :=
    .binary rfl (by decide) (by decide) (.identifier _)
      (.binary rfl (by decide) (by decide) (.await (by decide) hcall) (hnumber 1))
  have hproduct :
      (Node.binary (.unary "-" (.unary "!" (.identifier "x"))) "*" (.number (.int 2))).Levelled :=
    .binary rfl (by decide) (by decide)
      (.unary rfl (by decide) (.unary rfl (by decide) (.identifier _))) (hnumber 2)
  have hlist : (Node.list [.null, .boolean (.bool true)]).Levelled := by
    refine .list fun x hx => ?_
    rcases (by simpa using hx : x = .null ∨ x = .boolean (.bool true)) with rfl | rfl
    · exact hnull
    · exact .literal (.boolean true)
  have hdict : (Node.dict [(.string (.text "k"), .list [.null, .boolean (.bool true)])]).Levelled :=
    .dict (by simpa using .string _) (by simpa using hlist)
  refine .assignment _ (.choice (by decide) hcondition (.lambda _ ?_) ?_)
  · exact .binary rfl (by decide) (by decide)
      (.binary rfl (by decide) (by decide) (.identifier _) (.identifier _)) hproduct
  · exact .index rfl (.member _ rfl hdict) (.assignment _ (hnumber 0))

theorem expression_everyForm :
    everyForm.Levelled ∧
      expression (everyForm.lexemes.map (Lexeme.token ⟨1, 1⟩) ++
          [(plain .semicolon ";").token ⟨1, 9⟩]) =
        .ok everyForm [(plain .semicolon ";").token ⟨1, 9⟩] := by
  refine ⟨everyForm_levelled, expression_lexemes everyForm_levelled ?_ (by decide) []⟩
  simp [Function.comp_def]

end Parser
end FloScript
