import Mathlib.Data.List.Forall2
import FloScript.Proofs.JsonNumbers
import FloScript.Proofs.JsonStrings

/-! Reading gives back what was written. A text is read as a value if the reader takes it off the
front of every text that cannot lengthen it; this is kept by lists and dicts however their items are
set apart, and every text that the writer makes is of this kind. -/
namespace FloScript.Json

variable {whole rest cs gap before after : List Char} {items : List (List Char)}
  {c : Char} {n depth : Nat} {i : Int} {v : Value} {vs : List Value}

/-! ### Texts that are read -/

/-- `read` takes the text `cs` for `a` off the front of every text in which what follows is apart
from it. The text is ASCII, and its first character is neither blank nor the end of a list or
dict. -/
structure ReadAs {α : Type} (read : List Char → Except Fault (α × List Char)) (a : α)
    (cs : List Char) : Prop where
  ascii : ∀ c ∈ cs, Text.isAscii c = true
  head : ∃ c ds, cs = c :: ds ∧ isBlank c = false ∧ c ≠ ']' ∧ c ≠ '\x7d'
  read_eq : ∀ rest, Apart rest → read (cs ++ rest) = .ok (a, rest)

theorem readAs_null (whole : List Char) (depth : Nat) :
    ReadAs (readValue whole (depth + 1)) .null "null".toList where
  ascii := List.all_eq_true.mp rfl
  head := ⟨'n', _, rfl, by decide, by decide, by decide⟩
  read_eq _ _ := rfl

theorem readAs_bool (whole : List Char) (depth : Nat) (b : Bool) :
    ReadAs (readValue whole (depth + 1)) (.bool b) (if b then "true" else "false").toList := by
  cases b with
  | true =>
    exact ⟨List.all_eq_true.mp rfl, ⟨'t', _, rfl, by decide, by decide, by decide⟩, fun _ _ => rfl⟩
  | false =>
    exact ⟨List.all_eq_true.mp rfl, ⟨'f', _, rfl, by decide, by decide, by decide⟩, fun _ _ => rfl⟩

theorem readWith_of_word? {read : List Char → Except Fault (Value × List Char)}
    (hword : word? (c :: cs) = none) (hc : c ∉ ['\x22', '[', '\x7b']) :
    readWith whole read (c :: cs) = readNumber whole (c :: cs) := by
  unfold readWith
  split
  · next heq => exact absurd (List.cons.inj heq).1 (by simp_all)
  · next heq => exact absurd (List.cons.inj heq).1 (by simp_all)
  · next heq => exact absurd (List.cons.inj heq).1 (by simp_all)
  · rw [hword]

theorem word?_digit (h : c.isDigit = true) : word? (c :: cs) = none := by
  have hne : ∀ d, d.isDigit = false → ¬ d = c := fun d hd he => Scanner.ne_of_isDigit h hd he.symm
  simp [word?, words, List.isPrefixOf, hne 'n' rfl, hne 't' rfl, hne 'f' rfl, hne 'N' rfl,
    hne 'I' rfl, hne '-' rfl]

theorem word?_minus (h : c.isDigit = true) : word? ('-' :: c :: cs) = none := by
  have hne : ¬ 'I' = c := fun he => Scanner.ne_of_isDigit h rfl he.symm
  simp [word?, words, List.isPrefixOf, hne]

theorem readAs_int (whole : List Char) (depth : Nat)
    (h : (Number.digitsOf i.natAbs).length ≤ Number.digitLimit) :
    ReadAs (readValue whole (depth + 1)) (.int i) (Literal.intText i).toList := by
  obtain ⟨d, ds, hds⟩ := List.exists_cons_of_ne_nil (digitsOf_ne_nil i.natAbs)
  have hdigits : ∀ c ∈ d :: ds, c.isDigit = true := fun c hc => isDigit_of_mem_digitsOf (hds ▸ hc)
  have hd := hdigits d (by simp)
  have hnumber :
      ∀ rest, Apart rest →
        readNumber whole ((Literal.intText i).toList ++ rest) = .ok (.int i, rest) :=
    fun rest hr => readNumber_intText h hr
  by_cases hi : i < 0
  · have htext : (Literal.intText i).toList = '-' :: d :: ds := by simp [Literal.intText, hi, hds]
    rw [htext] at hnumber ⊢
    refine ⟨?_, ⟨'-', _, rfl, by decide, by decide, by decide⟩, fun rest hr => ?_⟩
    · intro c hc
      rcases List.mem_cons.mp hc with rfl | hc
      · rfl
      · exact Scanner.isAscii_of_isDigit (hdigits c hc)
    · exact (readWith_of_word? (word?_minus hd) (by decide)).trans (hnumber rest hr)
  · have htext : (Literal.intText i).toList = d :: ds := by simp [Literal.intText, hi, hds]
    have hne : ∀ c, c.isDigit = false → d ≠ c := fun c hc => Scanner.ne_of_isDigit hd hc
    rw [htext] at hnumber ⊢
    refine ⟨fun c hc => Scanner.isAscii_of_isDigit (hdigits c hc),
      ⟨d, ds, rfl, ?_, hne _ rfl, hne _ rfl⟩,
      fun rest hr => ?_⟩
    · simp [isBlank, hne ' ' rfl, hne '\t' rfl, hne '\n' rfl, hne '\r' rfl]
    · have hmark :
          d ∉ ['\x22', '[', '\x7b'] := by simp [hne '\x22' rfl, hne '[' rfl, hne '\x7b' rfl]
      exact (readWith_of_word? (word?_digit hd) hmark).trans (hnumber rest hr)

theorem readAs_text (whole : List Char) (depth : Nat) (s : String) :
    ReadAs (readValue whole (depth + 1)) (.text s) (stringText s).toList where
  ascii _ hc := isAscii_stringText hc
  head := ⟨'\x22', _, toList_stringText s, by decide, by decide, by decide⟩
  read_eq rest _ := by
    have hread := readString_stringText whole s rest
    rw [toList_stringText] at hread ⊢
    change (readString whole _ >>= fun p => pure (Value.text p.1, p.2)) = _
    rw [hread]
    rfl

/-! ### Lists and dicts -/

section
variable {α : Type} {read : List Char → Except Fault (α × List Char)} {a : α} {as : List α}

theorem ReadAs.length_pos (h : ReadAs read a cs) : 0 < cs.length := by
  obtain ⟨c, ds, rfl, -⟩ := h.head
  simp

/-- Items that are read one after the other begin as the first of them does. -/
theorem exists_first (h : List.Forall₂ (ReadAs read) as items) (hne : as ≠ [])
    (sep rest : List Char) :
    ∃ c t, List.intercalate sep items ++ rest = c :: t ∧ isBlank c = false ∧ c ≠ ']' ∧
      c ≠ '\x7d' := by
  cases h with
  | nil => exact absurd rfl hne
  | cons hfirst _ =>
    obtain ⟨c, ds, rfl, hc⟩ := hfirst.head
    exact ⟨c, _, by rw [List.intercalate_cons_cons_left, List.cons_append], hc⟩

theorem isAscii_intercalate (h : List.Forall₂ (ReadAs read) as items) (hgap : Blank gap)
    (hc : c ∈ List.intercalate (',' :: gap) items) : Text.isAscii c = true := by
  induction h with
  | nil => simp at hc
  | @cons _ cs _ items hfirst hrest ih =>
    by_cases hnil : items = []
    · subst hnil
      exact hfirst.ascii c (by simpa using hc)
    · rw [List.intercalate_cons_of_ne_nil hnil, List.append_assoc] at hc
      rcases List.mem_append.mp hc with hc | hc
      · exact hfirst.ascii c hc
      rcases List.mem_append.mp hc with hc | hc
      · rcases List.mem_cons.mp hc with rfl | hc
        · rfl
        · exact hgap.isAscii hc
      · exact ih hc

/-- Items between an opening and a closing character, with blanks around them. -/
def between (opening closing : Char) (before gap after : List Char) (items : List (List Char)) :
    List Char :=
  opening :: (before ++ (List.intercalate (',' :: gap) items ++ (after ++ [closing])))

theorem between_append {opening closing : Char} :
    between opening closing before gap after items ++ rest =
      opening ::
        (before ++ (List.intercalate (',' :: gap) items ++ (after ++ closing :: rest))) := by
  simp [between]

theorem isAscii_between {opening closing : Char} (h : List.Forall₂ (ReadAs read) as items)
    (hbefore : Blank before) (hgap : Blank gap) (hafter : Blank after)
    (ho : Text.isAscii opening = true) (hcl : Text.isAscii closing = true)
    (hc : c ∈ between opening closing before gap after items) : Text.isAscii c = true := by
  rcases List.mem_cons.mp hc with rfl | hc
  · exact ho
  rcases List.mem_append.mp hc with hc | hc
  · exact hbefore.isAscii hc
  rcases List.mem_append.mp hc with hc | hc
  · exact isAscii_intercalate h hgap hc
  rcases List.mem_append.mp hc with hc | hc
  · exact hafter.isAscii hc
  · obtain rfl := List.mem_singleton.mp hc
    exact hcl

/-- One item: after it comes the end, or a comma and the later items. -/
theorem ReadAs.step {closing : Char} (hfirst : ReadAs read a cs)
    (hrest : List.Forall₂ (ReadAs read) as items) (hgap : Blank gap) (hafter : Blank after)
    (hclosing : closing = ']' ∨ closing = '\x7d') (rest : List Char) :
    (List.intercalate (',' :: gap) items).length <
      (List.intercalate (',' :: gap) (cs :: items)).length ∧
    ∃ t,
      read (List.intercalate (',' :: gap) (cs :: items) ++ (after ++ closing :: rest)) =
        .ok (a, t) ∧
      (as = [] ∧ skipBlanks t = closing :: rest ∨
        as ≠ [] ∧ ∃ later, skipBlanks t = ',' :: later ∧
          skipBlanks later =
            List.intercalate (',' :: gap) items ++ (after ++ closing :: rest)) := by
  have hpos := hfirst.length_pos
  by_cases hnil : as = []
  · subst hnil
    obtain rfl : items = [] := by simpa using hrest
    have hblank : isBlank closing = false := by rcases hclosing with rfl | rfl <;> rfl
    have hapart : Apart (after ++ closing :: rest) :=
      hafter.apart_append (apart_cons (.inr hclosing))
    rw [List.intercalate_singleton, List.intercalate_nil]
    exact ⟨hpos, _, hfirst.read_eq _ hapart, .inl ⟨rfl, skipBlanks_append hafter hblank⟩⟩
  · have hitems : items ≠ [] := fun hitems => hnil (by subst hitems; simpa using hrest)
    obtain ⟨c, ds, hds, hc, -⟩ := exists_first hrest hnil (',' :: gap) (after ++ closing :: rest)
    rw [List.intercalate_cons_of_ne_nil hitems]
    refine ⟨by simp only [List.length_append]; omega, ?_⟩
    rw [List.append_assoc, List.append_assoc, List.cons_append]
    refine ⟨_, hfirst.read_eq _ (apart_cons (.inl rfl)), .inr ⟨hnil, _, skipBlanks_cons rfl, ?_⟩⟩
    rw [hds, skipBlanks_append hgap hc]

end

theorem readItems_intercalate {read : List Char → Except Fault (Value × List Char)}
    (h : List.Forall₂ (ReadAs read) vs items) (hne : vs ≠ [])
    (hgap : Blank gap) (hafter : Blank after)
    (hn : (List.intercalate (',' :: gap) items).length ≤ n) :
    readItems whole read n (List.intercalate (',' :: gap) items ++ (after ++ ']' :: rest)) =
      .ok (vs, rest) := by
  -- every item takes a character at least, so the length of the text is fuel enough
  induction h generalizing n with
  | nil => exact absurd rfl hne
  | @cons v cs vs items hfirst hrest ih =>
    obtain ⟨hlength, t, hread, hnext⟩ := hfirst.step hrest hgap hafter (.inl rfl) rest
    obtain ⟨n, rfl⟩ : ∃ k, n = k + 1 := ⟨n - 1, by omega⟩
    rw [readItems, hread, ok_bind]
    rcases hnext with ⟨rfl, hend⟩ | ⟨hvs, later, hcomma, hlater⟩
    · simp only [hend]
      rfl
    · simp only [hcomma, hlater]
      rw [ih hvs (by omega)]
      rfl

theorem ReadAs.list (h : List.Forall₂ (ReadAs (readValue whole depth)) vs items) (hne : vs ≠ [])
    (hbefore : Blank before) (hgap : Blank gap) (hafter : Blank after) :
    ReadAs (readValue whole (depth + 1)) (.list vs) (between '[' ']' before gap after items) where
  ascii _ hc := isAscii_between h hbefore hgap hafter rfl rfl hc
  head := ⟨'[', _, rfl, by decide, by decide, by decide⟩
  read_eq rest _ := by
    obtain ⟨c, cs, hcs, hc, hend, -⟩ := exists_first h hne (',' :: gap) (after ++ ']' :: rest)
    have hitems :
        readItems whole (readValue whole depth) (c :: cs).length (c :: cs) = .ok (vs, rest) := by
      rw [← hcs]
      exact readItems_intercalate h hne hgap hafter (by simp)
    rw [between_append, hcs, readValue, readWith, skipBlanks_append hbefore hc]
    split
    · next heq => exact absurd (List.cons.inj heq).1 hend
    · rw [hitems]
      rfl

theorem readAs_nil (whole : List Char) (depth : Nat) :
    ReadAs (readValue whole (depth + 1)) (.list []) "[]".toList where
  ascii := List.all_eq_true.mp rfl
  head := ⟨'[', _, rfl, by decide, by decide, by decide⟩
  read_eq _ _ := rfl

section
variable {read : List Char → Except Fault (Value × List Char)} {key : String}
  {es ms : List (String × Value)}

theorem ReadAs.member (h : ReadAs read v cs) (key : String) :
    ReadAs (readMember whole read) (key, v) ((stringText key).toList ++ (':' :: ' ' :: cs)) where
  ascii c hc := by
    rcases List.mem_append.mp hc with hc | hc
    · exact isAscii_stringText hc
    rcases List.mem_cons.mp hc with rfl | hc
    · rfl
    rcases List.mem_cons.mp hc with rfl | hc
    · rfl
    · exact h.ascii c hc
  head := by
    rw [toList_stringText]
    exact ⟨'\x22', _, rfl, by decide, by decide, by decide⟩
  read_eq rest hr := by
    obtain ⟨c, ds, rfl, hc, -⟩ := h.head
    have hkey := readString_stringText whole key (':' :: ' ' :: (c :: ds ++ rest))
    have hblank : skipBlanks ([' '] ++ c :: (ds ++ rest)) = c :: (ds ++ rest) :=
      skipBlanks_append blank_space hc
    rw [List.append_assoc, List.cons_append, List.cons_append]
    rw [toList_stringText] at hkey ⊢
    rw [List.cons_append] at hkey ⊢
    simp only [readMember]
    rw [hkey, ok_bind]
    simp only [skipBlanks_cons (show isBlank ':' = false from rfl)]
    change (read (skipBlanks ([' '] ++ c :: (ds ++ rest))) >>= _) = _
    rw [hblank, ← List.cons_append, h.read_eq rest hr]
    rfl

theorem putMember_of_notMem (h : key ∉ es.map Prod.fst) :
    putMember key v es = es ++ [(key, v)] := by
  induction es with
  | nil => rfl
  | cons e es ih =>
    obtain ⟨hne, hrest⟩ : key ≠ e.1 ∧ key ∉ es.map Prod.fst := by simpa using h
    rw [putMember, if_neg (Ne.symm hne), ih hrest, List.cons_append]

/-- Entries with new keys come after those that were read before, in their order. -/
theorem readMembers_intercalate (h : List.Forall₂ (ReadAs (readMember whole read)) ms items)
    (hne : ms ≠ []) (hkeys : ((es ++ ms).map Prod.fst).Nodup)
    (hgap : Blank gap) (hafter : Blank after)
    (hn : (List.intercalate (',' :: gap) items).length ≤ n) :
    readMembers whole read n es (List.intercalate (',' :: gap) items ++ (after ++ '\x7d' :: rest)) =
      .ok (es ++ ms, rest) := by
  induction h generalizing n es with
  | nil => exact absurd rfl hne
  | @cons m cs ms items hfirst hrest ih =>
    -- a key that is new goes to the end
    have hput : putMember m.1 m.2 es = es ++ [m] := putMember_of_notMem fun hmem => by
      rw [List.map_append, List.map_cons] at hkeys
      exact (List.nodup_append.mp hkeys).2.2 _ hmem _ List.mem_cons_self rfl
    obtain ⟨hlength, t, hread, hnext⟩ := hfirst.step hrest hgap hafter (.inr rfl) rest
    obtain ⟨n, rfl⟩ : ∃ k, n = k + 1 := ⟨n - 1, by omega⟩
    rw [readMembers, hread, ok_bind]
    rcases hnext with ⟨rfl, hend⟩ | ⟨hms, later, hcomma, hlater⟩
    · simp only [hend, hput]
      rfl
    · simp only [hcomma, hlater, hput]
      rw [ih hms (by simpa using hkeys) (by omega), List.append_assoc, List.singleton_append]

end

theorem readAs_empty (whole : List Char) (depth : Nat) :
    ReadAs (readValue whole (depth + 1)) (.dict []) "\x7b\x7d".toList where
  ascii := List.all_eq_true.mp rfl
  head := ⟨'\x7b', _, rfl, by decide, by decide, by decide⟩
  read_eq _ _ := rfl

theorem ReadAs.dict {es : Bindings}
    (h : List.Forall₂ (ReadAs (readMember whole (readValue whole depth))) es items) (hne : es ≠ [])
    (hkeys : (es.map Prod.fst).Nodup) (hbefore : Blank before) (hgap : Blank gap)
    (hafter : Blank after) :
    ReadAs (readValue whole (depth + 1)) (.dict es.entries)
      (between '\x7b' '\x7d' before gap after items) where
  ascii _ hc := isAscii_between h hbefore hgap hafter rfl rfl hc
  head := ⟨'\x7b', _, rfl, by decide, by decide, by decide⟩
  read_eq rest _ := by
    obtain ⟨c, cs, hcs, hc, -, hend⟩ := exists_first h hne (',' :: gap) (after ++ '\x7d' :: rest)
    have hmembers :
        readMembers whole (readValue whole depth) (c :: cs).length [] (c :: cs) =
          .ok (es, rest) := by
      rw [← hcs]
      exact readMembers_intercalate h hne hkeys hgap hafter (by simp)
    rw [between_append, hcs, readValue, readWith, skipBlanks_append hbefore hc]
    split
    · next heq => exact absurd (List.cons.inj heq).1 hend
    · rw [hmembers]
      rfl

/-! ### Written texts -/

section
variable {indent : Option String} {level : Nat} {seen : List Nat} {ss : Scopes}

/-- However items are set apart, blanks only are put around them. -/
theorem exists_enclosed {opening closing : Char} {o c : String} {texts : List String}
    (ho : o.toList = [opening]) (hc : c.toList = [closing])
    (hi : ∀ s ∈ indent, Blank s.toList) (hne : texts ≠ []) :
    ∃ before gap after, Blank before ∧ Blank gap ∧ Blank after ∧
      (enclosed indent level o c texts).toList =
        between opening closing before gap after (texts.map String.toList) := by
  have hitems : ¬ texts.isEmpty = true := by simpa using hne
  cases indent with
  | none =>
    refine ⟨[], [' '], [], blank_nil, blank_space, blank_nil, ?_⟩
    simp [enclosed, hitems, between, ho, hc]
  | some s =>
    have hline : ∀ k, Blank ("\n" ++ String.join (List.replicate k s)).toList := by
      intro k c hmem
      rw [String.toList_append, String.toList_join] at hmem
      rcases List.mem_append.mp hmem with hmem | hmem
      · exact List.mem_singleton.mp hmem ▸ rfl
      · obtain ⟨t, ht, hmem⟩ := List.mem_flatMap.mp hmem
        exact hi s rfl c (List.eq_of_mem_replicate ht ▸ hmem)
    refine ⟨_, _, _, hline (level + 1), hline (level + 1), hline level, ?_⟩
    simp [enclosed, hitems, between, ho, hc]

end

/-- The values that JSON keeps, nested at most so deep: null, booleans, integers of at most 4300
digits, texts, lists, and dicts whose keys are different texts. -/
inductive Storable : Nat → Value → Prop where
  | null {n : Nat} : Storable (n + 1) .null
  | bool {n : Nat} (b : Bool) : Storable (n + 1) (.bool b)
  | int {n : Nat} {i : Int} (h : (Nat.toDigits 10 i.natAbs).length ≤ 4300) :
      Storable (n + 1) (.int i)
  | text {n : Nat} (s : String) : Storable (n + 1) (.text s)
  | list {n : Nat} {vs : List Value} (h : ∀ v ∈ vs, Storable n v) : Storable (n + 1) (.list vs)
  | dict {n : Nat} {es : Bindings} (hkeys : (es.map Prod.fst).Nodup)
      (h : ∀ e ∈ es, Storable n e.2) :
    Storable (n + 1) (.dict es.entries)

theorem Storable.succ (h : Storable n v) : Storable (n + 1) v := by
  induction h with
  | null => exact .null
  | bool b => exact .bool b
  | int h => exact .int h
  | text s => exact .text s
  | list _ ih => exact .list ih
  | dict hkeys _ ih => exact .dict hkeys ih

theorem Storable.mono {m : Nat} (h : Storable n v) (hm : n ≤ m) : Storable m v := by
  induction hm with
  | refl => exact h
  | step _ ih => exact ih.succ

theorem exists_mapM {ε α β : Type} {f : α → Except ε β} {p : α → β → Prop} {as : List α}
    (h : ∀ a ∈ as, ∃ b, f a = .ok b ∧ p a b) : ∃ bs, as.mapM f = .ok bs ∧ List.Forall₂ p as bs := by
  induction as with
  | nil => exact ⟨[], rfl, .nil⟩
  | cons a as ih =>
    obtain ⟨b, hb, hp⟩ := h a (by simp)
    obtain ⟨bs, hbs, hps⟩ := ih fun x hx => h x (by simp [hx])
    exact ⟨b :: bs, by rw [List.mapM_cons, hb, ok_bind, hbs, ok_bind]; rfl, .cons hp hps⟩

section
variable {indent : Option String} {level : Nat} {seen : List Nat} {ss : Scopes}

theorem readAs_enclosed_list {texts : List String} (hi : ∀ s ∈ indent, Blank s.toList)
    (h : List.Forall₂ (fun v s => ReadAs (readValue whole n) v s.toList) vs texts) :
    ReadAs (readValue whole (n + 1)) (.list vs) (enclosed indent level "[" "]" texts).toList := by
  by_cases hne : vs = []
  · subst hne
    obtain rfl : texts = [] := by simpa using h
    exact readAs_nil whole n
  · have htexts : texts ≠ [] := fun ht => hne (by subst ht; simpa using h)
    obtain ⟨before, gap, after, hbefore, hgap, hafter, htext⟩ :=
      exists_enclosed (show "[".toList = ['['] from rfl)
        (show "]".toList = [']'] from rfl) hi htexts
    rw [htext]
    exact .list (List.forall₂_map_right_iff.mpr h) hne hbefore hgap hafter

theorem readAs_enclosed_dict {es : Bindings} {texts : List String}
    (hi : ∀ s ∈ indent, Blank s.toList) (hkeys : (es.map Prod.fst).Nodup)
    (h : List.Forall₂ (fun e s => ReadAs (readMember whole (readValue whole n)) e s.toList)
      es texts) :
    ReadAs (readValue whole (n + 1)) (.dict es.entries)
      (enclosed indent level "\x7b" "\x7d" texts).toList := by
  by_cases hne : es = []
  · subst hne
    obtain rfl : texts = [] := by simpa using h
    exact readAs_empty whole n
  · have htexts : texts ≠ [] := fun ht => hne (by subst ht; simpa using h)
    obtain ⟨before, gap, after, hbefore, hgap, hafter, htext⟩ :=
      exists_enclosed (show "\x7b".toList = ['\x7b'] from rfl)
        (show "\x7d".toList = ['\x7d'] from rfl) hi htexts
    rw [htext]
    exact .dict (List.forall₂_map_right_iff.mpr h) hne hkeys hbefore hgap hafter

theorem exists_member {e : String × Value} {written : Except Fault String}
    (h : ∃ s, written = .ok s ∧ ∀ whole, ReadAs (readValue whole n) e.2 s.toList) :
    ∃ s, (do let key ← keyText (.text e.1); return key ++ ": " ++ (← written)) = Except.ok s ∧
      ∀ whole, ReadAs (readMember whole (readValue whole n)) e s.toList := by
  obtain ⟨s, rfl, hread⟩ := h
  refine ⟨stringText e.1 ++ ": " ++ s, rfl, fun whole => ?_⟩
  rw [String.toList_append, String.toList_append, List.append_assoc]
  exact (hread whole).member e.1

/-- Every storable value is written, at every level of indentation, as a text that is read as the
value. -/
theorem exists_writeValue (ss : Scopes) (h : Storable depth v)
    (hi : ∀ s ∈ indent, Blank s.toList) (level : Nat) (seen : List Nat) :
    ∃ s, writeValue ss indent depth level seen v = .ok s ∧
      ∀ whole, ReadAs (readValue whole depth) v s.toList := by
  -- the parts stand one level deeper, and the whole text is not known before they are written
  induction h generalizing level with
  | null => exact ⟨_, rfl, fun whole => readAs_null whole _⟩
  | bool b => exact ⟨_, rfl, fun whole => readAs_bool whole _ b⟩
  | @int n i h =>
    have hwrite : writeValue ss indent (n + 1) level seen (.int i) = .ok (Literal.intText i) := by
      rw [← integerText_eq h]
      simp only [writeValue, leafText]
    exact ⟨_, hwrite, fun whole => readAs_int whole n h⟩
  | text s => exact ⟨_, rfl, fun whole => readAs_text whole _ s⟩
  | @list n vs h ih =>
    obtain ⟨texts, htexts, hread⟩ := exists_mapM fun v hv => ih v hv (level + 1)
    have hwrite :
        writeValue ss indent (n + 1) level seen (.list vs) =
          .ok (enclosed indent level "[" "]" texts) := by
      rw [writeValue, htexts, ok_bind]
      rfl
    exact ⟨_, hwrite, fun whole => readAs_enclosed_list hi (hread.imp fun _ _ h => h whole)⟩
  | @dict n es hkeys h ih =>
    obtain ⟨texts, htexts, hread⟩ := exists_mapM fun e he => exists_member (ih e he (level + 1))
    have hwrite : writeValue ss indent (n + 1) level seen (.dict es.entries) =
        .ok (enclosed indent level "\x7b" "\x7d" texts) := by
      simp only [writeValue, Bindings.entries, List.mapM_map, Function.comp_def]
      rw [htexts, ok_bind]
      rfl
    exact ⟨_, hwrite, fun whole => readAs_enclosed_dict hi hkeys (hread.imp fun _ _ h => h whole)⟩

end

/-! ### The round trip -/

/-- What is written is an ASCII text, and reading it gives the value. -/
def ReadBack (v : Value) (written : Except Fault String) (read : String → Except Fault Value) :
    Prop :=
  ∃ s, written = .ok s ∧ (∀ c ∈ s.toList, c.toNat < 128) ∧ read s = .ok v

theorem readWithin_eq {s : String} (h : ReadAs (readValue s.toList depth) v s.toList) :
    readWithin depth s = .ok v := by
  obtain ⟨c, ds, hs, hc, -⟩ := h.head
  have hmark : s.toList.head? ≠ some '\ufeff' := by
    intro hhead
    obtain rfl : c = '\ufeff' := by simpa [hs] using hhead
    exact absurd (h.ascii '\ufeff' (by simp [hs])) (by decide)
  have hskip : skipBlanks s.toList = s.toList := by rw [hs, skipBlanks_cons hc]
  have hread := h.read_eq [] apart_nil
  rw [List.append_nil] at hread
  simp only [readWithin, if_neg hmark, hskip, hread]
  rfl

theorem readBack_of_readAs {s : String} (h : ∀ whole, ReadAs (readValue whole depth) v s.toList) :
    ReadBack v (.ok s) (readWithin depth) :=
  ⟨s, rfl, fun c hc => by simpa [Text.isAscii] using (h []).ascii c hc, readWithin_eq (h _)⟩

theorem writeWithin_eq {ss : Scopes} {indent : Value} {t : Option String}
    (ht : indentText indent = .ok t) :
    writeWithin (depth + 1) ss v indent = writeValue ss t (depth + 1) 0 [] v := by
  unfold writeWithin
  split
  · rfl
  · rw [ht, ok_bind]

theorem Storable.readBack {ss : Scopes} {indent : Value} {t : Option String} (h : Storable depth v)
    (ht : indentText indent = .ok t) (hblank : ∀ s ∈ t, Blank s.toList) :
    ReadBack v (writeWithin depth ss v indent) (readWithin depth) := by
  obtain ⟨depth, rfl⟩ : ∃ k, depth = k + 1 := by cases h <;> exact ⟨_, rfl⟩
  obtain ⟨s, hs, hread⟩ := exists_writeValue ss h hblank 0 []
  rw [writeWithin_eq ht, hs]
  exact readBack_of_readAs hread

/-- As many blanks as are asked for are put in front of an item, as long as a text can have that
many. -/
theorem indentText_int (n : Nat) : indentText (.int n) =
    if n ≤ Value.sizeLimit then .ok (some (String.ofList (List.replicate n ' ')))
    else .error (.overflow .indexSize) := by
  simp only [indentText, Value.integer?, Value.repetitions, Int.toNat_natCast, Nat.one_mul]
  by_cases hsize : Value.sizeLimit < n
  · rw [if_pos (.inl (by omega)), if_neg (by omega)]
    rfl
  · rw [if_neg (by omega), if_neg hsize, if_neg (by decide), if_pos (by omega)]
    rfl

/-- A value that JSON keeps is written as an ASCII text, and reading the text gives the value,
within every limit on nesting that leaves room for it. It may be indented by as many blanks as a
text can have; more are refused, unless the value is a text by itself. -/
theorem readBack_write (ss : Scopes) {depth limit : Nat} {v : Value}
    (h : Storable depth v) (hl : depth ≤ limit) :
    ReadBack v (writeWithin limit ss v .null) (readWithin limit) ∧
    (∀ n : Nat, n ≤ Value.sizeLimit ∨ (∃ s, v = .text s) →
      ReadBack v (writeWithin limit ss v (.int n)) (readWithin limit)) ∧
    (∀ n : Nat, Value.sizeLimit < n → (∀ s, v ≠ .text s) →
      writeWithin limit ss v (.int n) = .error (.overflow .indexSize)) ∧
    (depth ≤ depthLimit → ReadBack v (encode ss v) decode) := by
  have hlimit := h.mono hl
  refine ⟨hlimit.readBack rfl (by simp), ?_, ?_, fun hd => (h.mono hd).readBack rfl (by simp)⟩
  · rintro n (hn | ⟨s, rfl⟩)
    · refine hlimit.readBack (by rw [indentText_int, if_pos hn]) ?_
      intro s hs c hc
      obtain rfl : String.ofList (List.replicate n ' ') = s := by simpa using hs
      rw [String.toList_ofList] at hc
      exact List.eq_of_mem_replicate hc ▸ rfl
    · -- the indentation is not looked at
      obtain ⟨limit, rfl⟩ : ∃ k, limit = k + 1 := by cases hlimit; exact ⟨_, rfl⟩
      exact readBack_of_readAs fun whole => readAs_text whole limit s
  · intro n hn htext
    unfold writeWithin
    split
    · exact absurd rfl (htext _)
    · rw [indentText_int, if_neg (by omega)]
      rfl

/-- A dict of a list and an empty dict, with characters that are escaped in each way. -/
def sample : Value :=
  .dict (Bindings.entries
    [("\né", .list [.null, .bool true, .int (-7), .text "\"😀\\"]), ("b", .dict [])])

theorem readBack_write_sample :
    Storable 3 sample ∧ ReadBack sample (encode #[] sample) decode ∧
      ReadBack sample (write #[] sample (.int 2)) read ∧
      ReadBack sample (write #[] sample (.int 9223372036854775807)) read ∧
      write #[] sample (.int 9223372036854775808) = .error (.overflow .indexSize) := by
  have hempty : Storable 2 (.dict (Bindings.entries [])) := .dict List.nodup_nil (by simp)
  have hlist : Storable 2 (.list [.null, .bool true, .int (-7), .text "\"😀\\"]) :=
    .list fun v hv => by
    simp only [List.mem_cons, List.not_mem_nil, or_false] at hv
    rcases hv with rfl | rfl | rfl | rfl
    exacts [.null, .bool true, .int (by decide), .text _]
  have hsample : Storable 3 sample := .dict (by decide) fun e he => by
    simp only [List.mem_cons, List.not_mem_nil, or_false] at he
    rcases he with rfl | rfl
    exacts [hlist, hempty]
  obtain ⟨-, hfits, htoo, hone⟩ := readBack_write #[] hsample (show 3 ≤ depthLimit by decide)
  exact ⟨hsample, hone (by decide), hfits 2 (.inl (by decide)),
    hfits 9223372036854775807 (.inl (by decide)),
    htoo 9223372036854775808 (by decide) (by simp [sample])⟩

/-- An indentation that no index counts is refused even where nothing is indented. -/
theorem not_readBack_indent : Storable 1 (.list []) ∧
    ¬ ReadBack (.list []) (write #[] (.list []) (.int 9223372036854775808)) read := by
  have hwrite : write #[] (.list []) (.int 9223372036854775808) = .error (.overflow .indexSize) :=
    rfl
  refine ⟨.list (by simp), fun ⟨s, hs, _⟩ => ?_⟩
  rw [hwrite] at hs
  cases hs

end FloScript.Json
