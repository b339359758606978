import FloScript.Proofs.Leaving

/-! Dict literals as maps. The entries of a literal are evaluated in order and put into one dict,
where truth values count as the numbers one and zero. What comes of them is said without the dict:
every key is listed where it first stands and as it is spelled there, with the value that stands
last. -/
namespace FloScript

/-- What a simple value counts as when it is a key. -/
inductive Key where
  | null
  | number (i : Int)
  | text (s : String)
  deriving DecidableEq

/-- The key of null, a truth value, an integer or a text; other values are no simple keys. -/
def Value.key? : Value → Option Key
  | null => some .null
  | bool b => some (.number (if b then 1 else 0))
  | int i => some (.number i)
  | text s => some (.text s)
  | _ => none

section Keys

variable {a b : Value} {x y : Key}

theorem same_of_key (ha : a.key? = some x) : a.same b = false := by
  cases a with
  | null | bool _ | int _ | text _ => rfl
  | _ => cases ha

theorem checkKey_of_key (ha : a.key? = some x) : a.checkKey = .ok () := by
  cases a with
  | null | bool _ | int _ | text _ => rfl
  | _ => cases ha

theorem Number.equal_int (i j : Int) : (Number.int i).equal (.int j) = decide (i = j) := by
  simp only [Number.equal, Number.compare?]
  by_cases h : i = j
  · simp [h]
  · have hne : compare i j ≠ .eq := fun hc => h (Int.compare_eq_eq.mp hc)
    simp [h, hne]

/-- Simple keys are equal exactly if they count as the same. -/
theorem equal_of_keys (ss : Scopes) (ha : a.key? = some x) (hb : b.key? = some y) :
    Value.equal ss a b = .ok (decide (x = y)) := by
  cases a with
  | null | bool _ | int _ | text _ =>
    cases b with
    | null | bool _ | int _ | text _ =>
      cases ha
      cases hb
      simp [Value.equal, depthLimit, Value.equalWithin, Value.entries?,
        Value.num?, Number.equal_int]
    | _ => cases hb
  | _ => cases ha

theorem matching_of_keys (ss : Scopes) (ha : a.key? = some x) (hb : b.key? = some y) :
    Value.matching ss a b = .ok (decide (x = y)) := by
  rw [Value.matching, same_of_key ha]
  exact equal_of_keys ss ha hb

end Keys

/-- Entries of a dict, or what the entries of a literal gave. -/
abbrev Entries := List (Value × Value)

namespace Entries

variable {es : Entries} {k v : Value} {x : Key}

/-- The keys that have no equal before them, in their order. -/
def firstKeys : Entries → List Value
  | [] => []
  | e :: es => e.1 :: (firstKeys es).filter fun k => k.key? ≠ e.1.key?

/-- The value of the last entry that has an equal key. -/
def last? (es : Entries) (k : Value) : Option Value :=
  (es.reverse.find? fun e => e.1.key? = k.key?).map Prod.snd

/-- Every key once, where and as it first stands, with the value that stands last. -/
def merged (es : Entries) : Entries := es.firstKeys.map fun k => (k, (es.last? k).getD .null)

/-- All keys are simple. -/
def Simple (es : Entries) : Prop := ∀ e ∈ es, e.1.key?.isSome = true

theorem mem_firstKeys (h : k ∈ es.firstKeys) : ∃ e ∈ es, e.1 = k := by
  induction es with
  | nil => cases h
  | cons e es ih =>
    rcases List.mem_cons.mp h with rfl | h
    · exact ⟨e, by simp, rfl⟩
    · obtain ⟨e', he', rfl⟩ := ih (List.mem_filter.mp h).1
      exact ⟨e', by simp [he'], rfl⟩

/-- Every key has its equal among the first keys. -/
theorem exists_firstKey {e : Value × Value} (h : e ∈ es) :
    ∃ k ∈ es.firstKeys, k.key? = e.1.key? := by
  induction es with
  | nil => cases h
  | cons d es ih =>
    by_cases hd : d.1.key? = e.1.key?
    · exact ⟨d.1, by simp [firstKeys], hd⟩
    · rcases List.mem_cons.mp h with rfl | h
      · exact absurd rfl hd
      · obtain ⟨k, hk, heq⟩ := ih h
        refine ⟨k, ?_, heq⟩
        have hne : k.key? ≠ d.1.key? := fun hkd => hd (hkd ▸ heq)
        simp [firstKeys, hk, hne]

theorem pairwise_firstKeys (es : Entries) : es.firstKeys.Pairwise fun a b => a.key? ≠ b.key? := by
  induction es with
  | nil => exact .nil
  | cons e es ih =>
    refine .cons ?_ (ih.filter _)
    intro k hk
    have hne : k.key? ≠ e.1.key? := by simpa using (List.mem_filter.mp hk).2
    exact Ne.symm hne

/-- A further entry with a new key adds it. -/
theorem firstKeys_concat_new (h : ∀ e ∈ es, e.1.key? ≠ k.key?) :
    firstKeys (es ++ [(k, v)]) = firstKeys es ++ [k] := by
  induction es with
  | nil => rfl
  | cons e es ih =>
    have hk : k.key? ≠ e.1.key? := Ne.symm (h e (by simp))
    rw [List.cons_append, firstKeys, ih fun e' he' => h e' (by simp [he']),
      firstKeys, List.filter_append]
    simp [hk]

/-- A further entry with a key that has its equal adds none. -/
theorem firstKeys_concat_old (h : ∃ e ∈ es, e.1.key? = k.key?) :
    firstKeys (es ++ [(k, v)]) = firstKeys es := by
  induction es with
  | nil => simp at h
  | cons e es ih =>
    rw [List.cons_append, firstKeys, firstKeys]
    by_cases hrest : ∃ e ∈ es, e.1.key? = k.key?
    · rw [ih hrest]
    · have hnew : ∀ e ∈ es, e.1.key? ≠ k.key? := fun e' he' heq => hrest ⟨e', he', heq⟩
      -- the equal key is the first one, which keeps out the added one
      have he : k.key? = e.1.key? := by
        obtain ⟨e', he', heq⟩ := h
        rcases List.mem_cons.mp he' with rfl | he'
        · exact heq.symm
        · exact absurd heq (hnew e' he')
      rw [firstKeys_concat_new hnew, List.filter_append]
      simp [he]

theorem last?_concat (es : Entries) (k v j : Value) :
    last? (es ++ [(k, v)]) j = if j.key? = k.key? then some v else es.last? j := by
  by_cases h : j.key? = k.key?
  · simp [last?, h]
  · have hne : ¬ k.key? = j.key? := fun hk => h hk.symm
    simp [last?, h, hne]

theorem isSome_last?_iff : (es.last? k).isSome = true ↔ ∃ e ∈ es, e.1.key? = k.key? := by
  simp [last?]

theorem last?_of_mem_firstKeys (h : k ∈ es.firstKeys) :
    es.last? k = some ((es.last? k).getD .null) := by
  obtain ⟨e, he, rfl⟩ := mem_firstKeys h
  obtain ⟨v, hv⟩ := Option.isSome_iff_exists.mp (isSome_last?_iff.mpr ⟨e, he, rfl⟩)
  rw [hv]
  rfl

theorem Simple.concat (h : Simple es) (hk : k.key? = some x) : Simple (es ++ [(k, v)]) := by
  intro e he
  rcases List.mem_append.mp he with he | he
  · exact h e he
  · obtain rfl := List.mem_singleton.mp he
    rw [hk]
    rfl

theorem Simple.firstKey (h : Simple es) (hk : k ∈ es.firstKeys) : ∃ x, k.key? = some x := by
  obtain ⟨e, he, rfl⟩ := mem_firstKeys hk
  exact Option.isSome_iff_exists.mp (h e he)

section Searching

variable {test : Value → Except Fault Bool} {as bs : Entries} {j w : Value}

theorem putEntry_new (h : ∀ e ∈ es, test e.1 = .ok false) :
    Value.putEntry test k v es = .ok (es ++ [(k, v)]) := by
  induction es with
  | nil => rfl
  | cons e es ih =>
    have hrest := ih fun e' he' => h e' (by simp [he'])
    simp only [Value.putEntry, h e (by simp), hrest]
    rfl

theorem putEntry_at (h : ∀ e ∈ as, test e.1 = .ok false) (hj : test j = .ok true) :
    Value.putEntry test k v (as ++ (j, w) :: bs) = .ok (as ++ (j, v) :: bs) := by
  induction as with
  | nil =>
    simp only [List.nil_append, Value.putEntry, hj]
    rfl
  | cons e as ih =>
    have hrest := ih fun e' he' => h e' (by simp [he'])
    simp only [List.cons_append, Value.putEntry, h e (by simp), hrest]
    rfl

theorem findEntry_none (h : ∀ e ∈ es, test e.1 = .ok false) :
    Value.findEntry test es = .ok none := by
  induction es with
  | nil => rfl
  | cons e es ih =>
    have hrest := ih fun e' he' => h e' (by simp [he'])
    simp only [Value.findEntry, h e (by simp), hrest]
    rfl

theorem findEntry_at (h : ∀ e ∈ as, test e.1 = .ok false) (hj : test j = .ok true) :
    Value.findEntry test (as ++ (j, w) :: bs) = .ok (some w) := by
  induction as with
  | nil =>
    simp only [List.nil_append, Value.findEntry, hj]
    rfl
  | cons e as ih =>
    have hrest := ih fun e' he' => h e' (by simp [he'])
    simp only [List.cons_append, Value.findEntry, h e (by simp), hrest]
    rfl

end Searching

/-- What is known of the first keys around one that equals a given key. -/
theorem exists_split (h : ∃ e ∈ es, e.1.key? = k.key?) :
    ∃ as j bs, es.firstKeys = as ++ j :: bs ∧ j.key? = k.key? ∧ (∀ i ∈ as, i.key? ≠ k.key?) ∧
      ∀ i ∈ bs, i.key? ≠ k.key? := by
  obtain ⟨e, he, hek⟩ := h
  obtain ⟨j, hj, hje⟩ := exists_firstKey he
  obtain ⟨as, bs, hsplit⟩ := List.append_of_mem hj
  have hjk : j.key? = k.key? := hje.trans hek
  have hpairs := pairwise_firstKeys es
  rw [hsplit, List.pairwise_append, List.pairwise_cons] at hpairs
  obtain ⟨-, ⟨hbs, -⟩, has⟩ := hpairs
  refine ⟨as, j, bs, hsplit, hjk, fun i hi heq => ?_, fun i hi heq => ?_⟩
  · exact has i hi j (by simp) (heq.trans hjk.symm)
  · exact hbs i hi (hjk.trans heq.symm)

variable (ss : Scopes)

theorem matching_firstKey (h : Simple es) (hk : k.key? = some x) {j : Value}
    (hj : j ∈ es.firstKeys) :
    Value.matching ss k j = .ok (decide (j.key? = k.key?)) := by
  obtain ⟨y, hy⟩ := h.firstKey hj
  rw [matching_of_keys ss hk hy, hk, hy]
  simp [eq_comm]

/-- A key is told apart from the first keys that are not its equal, whatever their values are. -/
theorem matching_others (h : Simple es) (hk : k.key? = some x) {is : List Value} {f : Value → Value}
    (hfirst : ∀ i ∈ is, i ∈ es.firstKeys) (hne : ∀ i ∈ is, i.key? ≠ k.key?) :
    ∀ e ∈ is.map (fun i => (i, f i)), Value.matching ss k e.1 = .ok false := by
  intro e he
  obtain ⟨i, hi, rfl⟩ := List.mem_map.mp he
  rw [matching_firstKey ss h hk (hfirst i hi)]
  simp [hne i hi]

/-- One more entry put into the dict of those before it gives the dict of all. -/
theorem insert_merged (h : Simple es) (hk : k.key? = some x) :
    Value.insert ss k v es.merged = .ok (merged (es ++ [(k, v)])) := by
  have hinsert :
      Value.insert ss k v es.merged =
        Value.putEntry (fun j => Value.matching ss k j) k v es.merged := by
    rw [Value.insert, checkKey_of_key hk]
    rfl
  rw [hinsert]
  by_cases hold : ∃ e ∈ es, e.1.key? = k.key?
  · obtain ⟨as, j, bs, hsplit, hjk, has, hbs⟩ := exists_split hold
    have hrest : ∀ is : List Value, (∀ i ∈ is, i.key? ≠ k.key?) →
        is.map (fun i => (i, (last? (es ++ [(k, v)]) i).getD .null)) =
          is.map fun i => (i, (es.last? i).getD .null) := by
      intro is his
      refine List.map_congr_left fun i hi => ?_
      rw [last?_concat, if_neg (his i hi)]
    have hj : last? (es ++ [(k, v)]) j = some v := by rw [last?_concat, if_pos hjk]
    rw [merged, merged, firstKeys_concat_old hold, hsplit, List.map_append,
      List.map_append, List.map_cons, List.map_cons, hrest as has, hrest bs hbs, hj]
    refine putEntry_at (matching_others ss h hk (fun i hi => by simp [hsplit, hi]) has) ?_
    rw [matching_firstKey ss h hk (by simp [hsplit])]
    simp [hjk]
  · have hnew : ∀ e ∈ es, e.1.key? ≠ k.key? := fun e he heq => hold ⟨e, he, heq⟩
    have hne : ∀ i ∈ es.firstKeys, i.key? ≠ k.key? := by
      intro i hi
      obtain ⟨e, he, rfl⟩ := mem_firstKeys hi
      exact hnew e he
    have hkeep :
        es.firstKeys.map (fun i => (i, (last? (es ++ [(k, v)]) i).getD .null)) = es.merged := by
      refine List.map_congr_left fun i hi => ?_
      rw [last?_concat, if_neg (hne i hi)]
    have hlast : last? (es ++ [(k, v)]) k = some v := by rw [last?_concat, if_pos rfl]
    rw [show merged (es ++ [(k, v)]) = es.merged ++ [(k, v)] by
      rw [merged, firstKeys_concat_new hnew, List.map_append, hkeep, List.map_singleton, hlast]
      rfl]
    exact putEntry_new (matching_others ss h hk (fun i hi => hi) hne)

/-- A key is found in the dict with the value that stands last. -/
theorem find?_merged (h : Simple es) (hk : k.key? = some x) :
    Value.find? ss k es.merged = .ok (es.last? k) := by
  have hfind :
      Value.find? ss k es.merged = Value.findEntry (fun j => Value.matching ss k j) es.merged := by
    rw [Value.find?, checkKey_of_key hk]
    rfl
  rw [hfind]
  by_cases hold : ∃ e ∈ es, e.1.key? = k.key?
  · obtain ⟨as, j, bs, hsplit, hjk, has, -⟩ := exists_split hold
    have hlast : es.last? k = some ((es.last? j).getD .null) := by
      have hsame : es.last? k = es.last? j := by simp only [last?, hjk]
      rw [hsame]
      exact last?_of_mem_firstKeys (by simp [hsplit])
    rw [merged, hsplit, List.map_append, List.map_cons, hlast]
    refine findEntry_at (matching_others ss h hk (fun i hi => by simp [hsplit, hi]) has) ?_
    rw [matching_firstKey ss h hk (by simp [hsplit])]
    simp [hjk]
  · have hnone : es.last? k = none := by
      rw [← Option.not_isSome_iff_eq_none, isSome_last?_iff]
      exact hold
    rw [hnone]
    refine findEntry_none (matching_others ss h hk (fun i hi => hi) fun i hi heq => ?_)
    obtain ⟨d, hd, rfl⟩ := mem_firstKeys hi
    exact hold ⟨d, hd, heq⟩

theorem index_merged (h : Simple es) (hk : k.key? = some x) :
    (Value.dict es.merged).index ss k = .ok ((es.last? k).getD .null) := by
  have hindex :
      (Value.dict es.merged).index ss k = do return (← Value.find? ss k es.merged).getD .null := by
    cases k with
    | null | bool _ | int _ | text _ => rfl
    | _ => cases hk
  rw [hindex, find?_merged ss h hk]
  rfl

end Entries

namespace Evaluator

section

variable (ev : Evaluator)

/-- Evaluates the entries of a literal in order, each key before its value, and gives all of
them. -/
def pairs (scope : Nat) : List (Node × Node) → Run Entries
  | [] => return []
  | (k, v) :: ps => do
    let key ← ev k scope
    let value ← ev v scope
    return (key, value) :: (← pairs scope ps)

/-- Every key that the evaluation of the entries comes to is simple. -/
def KeysSimple (scope : Nat) : List (Node × Node) → Machine → Prop
  | [], _ => True
  | (k, v) :: ps, m => ∀ key m₁, ev k scope m = .ok key m₁ → key.key?.isSome = true ∧
      ∀ value m₂, ev v scope m₁ = .ok value m₂ → KeysSimple scope ps m₂

end

variable {ev : Evaluator} {scope : Nat} {ps : List (Node × Node)} {m m' : Machine}
  {given es : Entries} {e : Signal}

theorem keysSimple_of_forall
    (h : ∀ p ∈ ps, ∀ m key m₁, ev p.1 scope m = .ok key m₁ → key.key?.isSome = true) (m : Machine) :
    KeysSimple ev scope ps m := by
  induction ps generalizing m with
  | nil => trivial
  | cons p ps ih =>
    intro key m₁ hkey
    exact ⟨h p (by simp) m key m₁ hkey, fun value m₂ _ => ih (fun q hq => h q (by simp [hq])) m₂⟩

/-- The entries go into the dict one by one; nothing else happens between them. -/
theorem entries_merged (hkeys : KeysSimple ev scope ps m) (hes : es.Simple) :
    entries ev scope es.merged ps m =
      (pairs ev scope ps >>= fun given => pure (Entries.merged (es ++ given)) : Run Entries) m := by
  induction ps generalizing m es with
  | nil =>
    change EStateM.Result.ok es.merged m = .ok (Entries.merged (es ++ [])) m
    rw [List.append_nil]
  | cons p ps ih =>
    obtain ⟨k, v⟩ := p
    simp only [entries, pairs, bind_assoc]
    cases hk : ev k scope m with
    | error e m₁ => rw [Run.bind_error hk, Run.bind_error hk]
    | ok key m₁ =>
      obtain ⟨hsimple, hrest⟩ := hkeys key m₁ hk
      obtain ⟨x, hx⟩ := Option.isSome_iff_exists.mp hsimple
      rw [Run.bind_ok hk, Run.bind_ok hk]
      cases hv : ev v scope m₁ with
      | error e m₂ => rw [Run.bind_error hv, Run.bind_error hv]
      | ok value m₂ =>
        rw [Run.bind_ok hv, Run.bind_ok hv]
        change (Run.lift (Value.insert m₂.scopes key value es.merged) >>= fun es =>
          entries ev scope es ps) m₂ = _
        rw [Entries.insert_merged m₂.scopes hes hx]
        refine (ih (hrest value m₂ hv) (hes.concat hx)).trans ?_
        simp

theorem simple_pairs (hkeys : KeysSimple ev scope ps m) (h : pairs ev scope ps m = .ok given m') :
    given.Simple := by
  induction ps generalizing m given with
  | nil =>
    cases h
    intro e he
    cases he
  | cons p ps ih =>
    obtain ⟨k, v⟩ := p
    obtain ⟨key, m₁, hk, h⟩ := Run.bind_eq_ok.mp h
    obtain ⟨hsimple, hrest⟩ := hkeys key m₁ hk
    obtain ⟨value, m₂, hv, h⟩ := Run.bind_eq_ok.mp h
    obtain ⟨rest, m₃, hps, h⟩ := Run.bind_eq_ok.mp h
    cases h
    exact List.forall_mem_cons.mpr ⟨hsimple, ih (hrest value m₂ hv) hps⟩

end Evaluator

open Evaluator (KeysSimple pairs)

/-- A dict literal whose keys come out as null, truth values, integers or texts gives what its
entries give: the signal that one of them ends with, or a dict that lists every key once, where it
first stands and as it is spelled there, with the value that stands last. No two of its keys are
equal. Looking up such a key gives the value of the last entry with an equal key, or null if there
is none. -/
theorem dict_last_value (rounds d scope : Nat) (ps : List (Node × Node)) (m : Machine)
    (hkeys : KeysSimple (eval rounds d) scope ps m) :
    (∀ e m', pairs (eval rounds d) scope ps m = .error e m' →
      eval rounds (d + 1) (.dict ps) scope m = .error e m') ∧
    ∀ given m', pairs (eval rounds d) scope ps m = .ok given m' →
      ∃ es : Entries, eval rounds (d + 1) (.dict ps) scope m = .ok (.dict es) m' ∧
        es.map Prod.fst = given.firstKeys ∧
        (∀ e ∈ es, given.last? e.1 = some e.2) ∧
        (∀ ss, es.Pairwise fun a b => Value.equal ss a.1 b.1 = .ok false) ∧
        (∀ ss k, k.key?.isSome = true →
          (Value.dict es).index ss k = .ok ((given.last? k).getD .null)) ∧
        ∀ i k m'', eval rounds (d + 1) i scope m' = .ok k m'' → k.key?.isSome = true →
          eval rounds (d + 2) (.index (.dict ps) i) scope m =
            .ok ((given.last? k).getD .null) m'' := by
  have heval : eval rounds (d + 1) (.dict ps) scope m =
      (Evaluator.entries (eval rounds d) scope (Entries.merged []) ps >>= fun es =>
        pure (.dict es) : Run Value) m :=
    rfl
  have hnone : Entries.Simple [] := fun e he => by cases he
  have hentries := Evaluator.entries_merged hkeys hnone
  constructor
  · intro e m' hpairs
    rw [Run.bind_error hpairs] at hentries
    rw [heval, Run.bind_error hentries]
  · intro given m' hpairs
    have hsimple := Evaluator.simple_pairs hkeys hpairs
    have hdict : eval rounds (d + 1) (.dict ps) scope m = .ok (.dict given.merged) m' := by
      rw [Run.bind_ok hpairs] at hentries
      rw [heval, Run.bind_ok hentries]
      rfl
    have hindex : ∀ ss k, k.key?.isSome = true →
        (Value.dict given.merged).index ss k = .ok ((given.last? k).getD .null) := by
      intro ss k hk
      obtain ⟨x, hx⟩ := Option.isSome_iff_exists.mp hk
      exact Entries.index_merged ss hsimple hx
    refine ⟨given.merged, hdict, ?_, ?_, ?_, hindex, ?_⟩
    · simp [Entries.merged, Function.comp_def]
    · intro e he
      obtain ⟨k, hk, rfl⟩ := List.mem_map.mp he
      exact Entries.last?_of_mem_firstKeys hk
    · intro ss
      refine List.pairwise_map.mpr ((Entries.pairwise_firstKeys given).imp_of_mem ?_)
      intro a b ha hb hne
      obtain ⟨x, hx⟩ := hsimple.firstKey ha
      obtain ⟨y, hy⟩ := hsimple.firstKey hb
      have hxy : x ≠ y := fun hxy => hne (by rw [hx, hy, hxy])
      rw [equal_of_keys ss hx hy]
      simp [hxy]
    · intro i k m'' hi hk
      refine (Run.bind_ok hdict).trans ((Run.bind_ok hi).trans ?_)
      change Run.lift ((Value.dict given.merged).index m''.scopes k) m'' = _
      rw [hindex m''.scopes k hk]
      rfl

/-- One key under two spellings, three times, with others between. -/
def mixedKeys : List (Node × Node) :=
  [(.number (.int 1), .string (.text "a")), (.string (.text "1"), .string (.text "b")),
    (.boolean (.bool true), .string (.text "c")), (.null, .string (.text "d")),
    (.number (.int 1), .string (.text "e"))]

theorem mixedKeys_last_value : ∃ es : Entries,
    eval roundLimit 2 (.dict mixedKeys) Machine.globals .initial = .ok (.dict es) .initial ∧
    es.map Prod.fst = [.int 1, .text "1", .null] ∧
    (Value.dict es).index #[] (.bool true) = .ok (.text "e") ∧
    (Value.dict es).index #[] (.int 0) = .ok .null := by
  have hkeys : KeysSimple (eval roundLimit 1) Machine.globals mixedKeys .initial := by
    refine Evaluator.keysSimple_of_forall (fun p hp m key m₁ h => ?_) _
    simp only [mixedKeys, List.mem_cons, List.not_mem_nil, or_false] at hp
    rcases hp with rfl | rfl | rfl | rfl | rfl <;> cases h <;> rfl
  obtain ⟨es, heval, hfirst, -, -, hindex, -⟩ :=
    (dict_last_value roundLimit 1 Machine.globals mixedKeys .initial hkeys).2 _ _ rfl
  exact ⟨es, heval, hfirst, hindex #[] _ rfl, hindex #[] _ rfl⟩

end FloScript
