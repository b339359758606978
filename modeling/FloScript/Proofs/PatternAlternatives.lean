import FloScript.Proofs.GrouplessTexts

/-! A text without groups and bounds is read as alternatives of flat patterns, and matches what one
of them matches. -/
namespace FloScript.Pattern.Reader

variable {s t : State} {c : Char} {u v w : List Char} {inner : Inner} {ps : List Piece} {n : Nat}

section Alternatives

variable {p q : Pattern} {item : List Pattern} {items : List (List Pattern)}
  {before rest : List Char} {caps : List (Nat × List Char)}

theorem eq_of_sameStart (h : sameStart p q = true) : p = q := by
  unfold sameStart at h
  split at h
  · exact congrArg one (of_decide_eq_true h)
  · exact congrArg anchor (of_decide_eq_true h)
  · obtain ⟨hm, hf⟩ := Bool.and_eq_true_iff.mp h
    exact congr (congrArg backref (of_decide_eq_true hm)) (of_decide_eq_true hf)
  · cases h

/-- The common start and the ends make up the alternatives. -/
theorem commonStart_eq (n : Nat) (items : List (List Pattern)) :
    (commonStart n items).2.map ((commonStart n items).1 ++ ·) = items := by
  induction n generalizing items with
  | zero => simp [commonStart]
  | succ n ih =>
    rcases items with _ | ⟨_ | ⟨p, ps⟩, rest⟩
    · rfl
    · simp [commonStart]
    · rw [commonStart]
      split
      · next hall =>
        have hrest : rest = (rest.map List.tail).map (p :: ·) := by
          refine (List.map_id rest).symm.trans ?_
          rw [List.map_map]
          refine List.map_congr_left fun item hitem => ?_
          obtain ⟨q, hq, hsame⟩ := (Option.any_eq_true _ _).mp (List.all_eq_true.mp hall item hitem)
          obtain ⟨ps', rfl⟩ := List.head?_eq_some_iff.mp hq
          rw [eq_of_sameStart hsame]
          rfl
        have hends := congrArg (List.map (p :: ·)) (ih (ps :: rest.map List.tail))
        rw [List.map_map, List.map_cons, ← hrest] at hends
        exact hends
      · simp

theorem contains_plain {set : CharSet} (hfold : set.fold = .none) (hnegated : set.negated = false) :
    set.contains c = true ↔ ∃ test ∈ set.tests, test.holds .none c = true := by
  obtain ⟨negated, tests, fold⟩ := set
  obtain rfl : fold = .none := hfold
  obtain rfl : negated = false := hnegated
  unfold CharSet.contains
  dsimp only
  split
  · next n =>
    by_cases hplane : n < planeSize
    · simp [CharTest.holds, Fold.forms, hplane]
    · simp only [CharTest.holds, Fold.forms, hplane, List.mem_singleton, exists_eq_left,
        List.any_cons, List.any_nil, Bool.or_false, Bool.bne_false, if_false]
      exact Iff.rfl
  · simp

theorem singleTests?_eq_some {tests : List CharTest} (h : singleTests? item = some tests) :
    ∃ set, item = [one set] ∧ set.negated = false ∧ set.tests = tests := by
  unfold singleTests? at h
  split at h
  · next set =>
    split at h
    · cases h
    · next hnegated => exact ⟨set, rfl, Bool.eq_false_iff.mpr hnegated, Option.some.inj h⟩
  · cases h

theorem mem_of_mapM {tests : List (List CharTest)} (h : items.mapM singleTests? = some tests) :
    (∀ item ∈ items, ∃ set, item = [one set] ∧ set.negated = false ∧ set.tests ∈ tests) ∧
      ∀ ts ∈ tests, ∃ set, [one set] ∈ items ∧ set.negated = false ∧ set.tests = ts := by
  induction items generalizing tests with
  | nil =>
    obtain rfl : [] = tests := by simpa using h
    simp
  | cons item items ih =>
    rw [List.mapM_cons] at h
    obtain ⟨ts, hts, h⟩ := Option.bind_eq_some_iff.mp h
    obtain ⟨tests', htests, h⟩ := Option.bind_eq_some_iff.mp h
    obtain rfl := Option.some.inj h
    obtain ⟨set, rfl, hnegated, rfl⟩ := singleTests?_eq_some hts
    obtain ⟨hitems, hsets⟩ := ih htests
    constructor
    · refine List.forall_mem_cons.mpr ⟨⟨set, rfl, hnegated, by simp⟩, fun item hitem => ?_⟩
      obtain ⟨set', rfl, hnegated', hmem⟩ := hitems item hitem
      exact ⟨set', rfl, hnegated', by simp [hmem]⟩
    · refine List.forall_mem_cons.mpr ⟨⟨set, by simp, hnegated, rfl⟩, fun ts hts => ?_⟩
      obtain ⟨set', hmem, hnegated', rfl⟩ := hsets ts hts
      exact ⟨set', by simp [hmem], hnegated', rfl⟩

theorem spans_alternativesOf (hne : items ≠ []) :
    Spans (oneOf.alternativesOf items) before u rest caps ↔
    ∃ item ∈ items, Spans (inOrder item) before u rest caps := by
  induction items with
  | nil => exact absurd rfl hne
  | cons item items ih =>
    cases items with
    | nil => simp [oneOf.alternativesOf]
    | cons item' items =>
      change Spans (inOrder item) before u rest caps ∨
        Spans (oneOf.alternativesOf (item' :: items)) before u rest caps ↔ _
      rw [ih (List.cons_ne_nil _ _)]
      simp only [List.mem_cons, or_and_right, exists_or, exists_eq_left]

/-- One of several alternatives spans what any of them spans. -/
theorem spans_oneOf (hflat : ∀ item ∈ items, ∀ p ∈ item, p.Flat) :
    Spans (oneOf .plain items) before u rest caps ↔
    ∃ item ∈ items, Spans (inOrder item) before u rest caps := by
  unfold oneOf
  split
  · next tests htests =>
    obtain ⟨hitems, hsets⟩ := mem_of_mapM htests
    constructor
    · rintro ⟨⟨c, rfl, hc⟩, rfl⟩
      obtain ⟨test, hmem, htest⟩ := (contains_plain rfl rfl).mp hc
      obtain ⟨ts, hts, hmem⟩ := List.mem_flatten.mp (List.mem_eraseDups.mp hmem)
      obtain ⟨set, hset, hnegated, rfl⟩ := hsets ts hts
      have hfold : set.fold = .none := hflat _ hset (one set) (by simp)
      exact ⟨_, hset,
        spans_singleton.mpr
        ⟨⟨c, rfl, (contains_plain hfold hnegated).mpr ⟨test, hmem, htest⟩⟩, rfl⟩⟩
    · rintro ⟨item, hitem, hspans⟩
      obtain ⟨set, rfl, hnegated, hts⟩ := hitems item hitem
      have hfold : set.fold = .none := hflat _ hitem (one set) (by simp)
      obtain ⟨⟨c, rfl, hc⟩, rfl⟩ := spans_singleton.mp hspans
      obtain ⟨test, hmem, htest⟩ := (contains_plain hfold hnegated).mp hc
      refine ⟨⟨c, rfl, (contains_plain rfl rfl).mpr ⟨test, ?_, htest⟩⟩, rfl⟩
      exact List.mem_eraseDups.mpr (List.mem_flatten.mpr ⟨_, hts, hmem⟩)
  · next hnone =>
    refine spans_alternativesOf ?_
    rintro rfl
    cases hnone

theorem spans_alternatives (n : Nat) (hflat : ∀ item ∈ items, ∀ p ∈ item, p.Flat) :
    Spans (inOrder ((commonStart n items).1 ++ [oneOf .plain (commonStart n items).2]))
        before u rest caps ↔
      ∃ item ∈ items, Spans (inOrder item) before u rest caps := by
  have hitems := commonStart_eq n items
  generalize commonStart n items = common at hitems
  obtain ⟨start, ends⟩ := common
  subst hitems
  have hends : ∀ item ∈ ends, ∀ p ∈ item, p.Flat := fun item hitem p hp =>
    hflat (start ++ item) (List.mem_map_of_mem hitem) p (by simp [hp])
  rw [spans_append]
  constructor
  · rintro ⟨v, w, vs, ws, rfl, rfl, hv, hw⟩
    obtain ⟨item, hitem, hw⟩ := (spans_oneOf hends).mp (spans_singleton.mp hw)
    exact ⟨start ++ item, List.mem_map_of_mem hitem,
      spans_append.mpr ⟨v, w, vs, ws, rfl, rfl, hv, hw⟩⟩
  · rintro ⟨_, hitem, hspans⟩
    obtain ⟨item, hend, rfl⟩ := List.mem_map.mp hitem
    obtain ⟨v, w, vs, ws, rfl, rfl, hv, hw⟩ := spans_append.mp hspans
    exact ⟨v, w, vs, ws, rfl, rfl, hv,
      spans_singleton.mpr ((spans_oneOf hends).mpr ⟨item, hend, hw⟩)⟩

theorem simple_of_flat (h : p.Flat) : Simple p := by
  cases p with
  | one | anchor => trivial
  | times p least most greed =>
    obtain ⟨hset, rfl | ⟨rfl, rfl⟩⟩ := h
    · exact ⟨hset, by simp⟩
    · exact ⟨hset, by simp⟩
  | _ => exact h.elim

theorem simple_oneOf (hflat : ∀ item ∈ items, ∀ p ∈ item, p.Flat) :
    Simple (oneOf .plain items) := by
  have halternatives : Simple (oneOf.alternativesOf items) := by
    induction items with
    | nil => trivial
    | cons item items ih =>
      obtain ⟨hitem, hitems⟩ := List.forall_mem_cons.mp hflat
      have hitem : Simple (inOrder item) :=
        simple_inOrder.mpr fun p hp => simple_of_flat (hitem p hp)
      cases items with
      | nil => exact hitem
      | cons item' items => exact ⟨hitem, ih hitems⟩
  unfold oneOf
  split
  · trivial
  · exact halternatives

theorem simple_alternatives (n : Nat) (hne : items ≠ [])
    (hflat : ∀ item ∈ items, ∀ p ∈ item, p.Flat) :
    Simple (inOrder ((commonStart n items).1 ++ [oneOf .plain (commonStart n items).2])) := by
  have hitems := commonStart_eq n items
  generalize commonStart n items = common at hitems
  obtain ⟨start, ends⟩ := common
  subst hitems
  refine simple_inOrder.mpr fun p hp => ?_
  rcases List.mem_append.mp hp with hp | hp
  · obtain ⟨item, hitem⟩ := List.exists_mem_of_ne_nil ends fun hnil => hne (by simp [hnil])
    exact simple_of_flat (hflat (start ++ item) (List.mem_map_of_mem hitem) p (by simp [hp]))
  · obtain rfl := List.mem_singleton.mp hp
    exact simple_oneOf fun item hitem p hp =>
      hflat (start ++ item) (List.mem_map_of_mem hitem) p (by simp [hp])

end Alternatives

section Whole

variable {p : Pattern} {text : List Char} {item : List Pattern} {items : List (List Pattern)}

/-- The alternatives that are read from a text behind its start. -/
inductive Alternatives (text : List Char) : List (List Pattern) → Prop where
  | only {item : List Pattern} (h : ReadFrom [.place (anchor .textStart)] text item) :
      Alternatives text [item]
  | several {v w : List Char} {item : List Pattern} {items : List (List Pattern)}
    (htext : text = v ++ '|' :: w) (h : ReadFrom [.place (anchor .textStart)] v item)
    (hitems : ∀ i ∈ items, ∃ x, x <:+: w ∧ ReadFrom [] x i) :
    Alternatives text (item :: items)

theorem exists_of_full (hu : Uncut s.rest) (h : full s = .ok p t) :
    ∃ r s', level (s.rest.length + 1) true .plain s = .ok r s' ∧ s'.rest = [] ∧ p = inOrder r := by
  unfold full at h
  rw [Reader.bind_ok (skip_eq hu 0), Reader.bind_ok (get_eq _)] at h
  obtain ⟨r, s', hlevel, h⟩ := bind_eq_ok h
  rw [Reader.bind_ok (get_eq _)] at h
  by_cases hrest : s'.rest = []
  · refine ⟨r, s', hlevel, hrest, ?_⟩
    rw [if_neg (by simp [hrest])] at h
    cases hfind : s'.references.find? fun r => s'.groups ≤ r.1 with
    | some r =>
      simp only [hfind] at h
      cases h
    | none =>
      simp only [hfind] at h
      by_cases huneven : s'.uneven = true
      · rw [if_pos huneven] at h
        cases h
      · rw [if_neg huneven] at h
        cases h
        rfl
  · rw [if_pos (by simpa using hrest)] at h
    cases h

theorem exists_of_branches (hs : Bare s) (hrest : s.rest = '^' :: text) (hend : t.rest = [])
    (h : branches inner .plain (n + 1) s = .ok items t) : Alternatives text items := by
  rw [branches, Reader.bind_ok (get_eq s)] at h
  obtain ⟨item, s₁, hsequence, h⟩ := bind_eq_ok h
  have hs₀ : Bare { s with rest := text } := hs.suffix (w := ['^']) hrest hs.widths
  have hstart : piece inner .plain [] ['^'] { s with rest := text } =
      .ok [.place (anchor .textStart)] { s with rest := text } := rfl
  rw [sequence_step hrest (by decide) hs.uncut, Reader.bind_ok hstart] at hsequence
  obtain ⟨v, hv, hwidths, hitem⟩ :=
    eats_sequence _ (by simpa using .place _) _ hs₀ item s₁ hsequence
  have hs₁ := hs₀.suffix hv hwidths
  obtain ⟨r, s₂, haccept, h⟩ := bind_eq_ok h
  obtain ⟨w, hw, hwidths₂, rfl⟩ := eats_accept '|' s₁ hs₁ r s₂ haccept
  cases r with
  | false =>
    cases h
    obtain rfl : text = v := by simpa [hw, hend] using hv
    exact .only hitem
  | true =>
    obtain ⟨items', s₃, hbranches, h⟩ := bind_eq_ok h
    cases h
    obtain ⟨w, hw', -, hitems⟩ := eats_branches n s₂ (hs₁.suffix hw hwidths₂) items' t hbranches
    rw [hend, List.append_nil] at hw'
    exact .several (by rw [← hw']; simpa [hw] using hv) hitem hitems

theorem ReadFrom.flat {v : List Char} (h : ReadFrom ps v item) : ∀ p ∈ item, p.Flat := by
  obtain ⟨qs, -, hflat, rfl⟩ := h
  intro p hp
  obtain ⟨q, hq, hp⟩ := List.mem_flatMap.mp hp
  cases hflat q (List.mem_reverse.mp hq) with
  | plain hfold =>
    obtain rfl := List.mem_singleton.mp hp
    exact hfold
  | place a =>
    obtain rfl := List.mem_singleton.mp hp
    trivial
  | repeated hp' =>
    obtain rfl := List.mem_singleton.mp hp
    exact hp'

theorem Alternatives.flat (h : Alternatives text items) : ∀ item ∈ items, ∀ p ∈ item, p.Flat := by
  cases h with
  | only h => simpa using h.flat
  | several _ h hitems =>
    refine List.forall_mem_cons.mpr ⟨h.flat, fun item hitem => ?_⟩
    obtain ⟨x, -, hread⟩ := hitems item hitem
    exact hread.flat

theorem exists_of_level (hs : Bare s) (hrest : s.rest = '^' :: text) (hend : t.rest = [])
    (h : level (n + 1) true .plain s = .ok item t) :
    ∃ items, Alternatives text items ∧ Simple (inOrder item) ∧
      ∀ before u rest caps,
        Spans (inOrder item) before u rest caps ↔
          ∃ i ∈ items, Spans (inOrder i) before u rest caps := by
  change (get >>= fun s => alternatives (level n) .plain (s.rest.length + 1)) s = .ok item t at h
  rw [Reader.bind_ok (get_eq s)] at h
  obtain ⟨items, s₁, hbranches, h⟩ := bind_eq_ok h
  rcases items with _ | ⟨i, _ | ⟨i', items⟩⟩
  · cases h
    cases exists_of_branches hs hrest hend hbranches
  · cases h
    have hitems := exists_of_branches hs hrest hend hbranches
    refine ⟨[item], hitems, simple_inOrder.mpr fun p hp =>
      simple_of_flat (hitems.flat item (by simp) p hp), ?_⟩
    simp
  · cases h
    have hitems := exists_of_branches hs hrest hend hbranches
    exact ⟨i :: i' :: items, hitems, simple_alternatives _ (List.cons_ne_nil _ _) hitems.flat,
      fun _ _ _ _ => spans_alternatives _ hitems.flat⟩

/-- A text without groups and bounds that can be read as a pattern is read as alternatives of flat
patterns. -/
theorem exists_alternatives {q : Named} (hopen : '(' ∉ text) (hbounds : hasBounds text = false)
    (hu : Uncut ('^' :: text)) (h : Pattern.read (String.ofList ('^' :: text)) = .ok q) :
    ∃ items, Alternatives text items ∧ Simple q.pattern ∧
      ∀ before u rest caps,
        Spans q.pattern before u rest caps ↔
          ∃ i ∈ items, Spans (inOrder i) before u rest caps := by
  rw [Pattern.read, String.toList_ofList] at h
  split at h
  · next p s hfull =>
    cases h
    have hs : Bare ⟨'^' :: text, '^' :: text, 1, [], [], none, [], false⟩ :=
      ⟨rfl, by simpa using hopen, hbounds, hu⟩
    obtain ⟨r, s', hlevel, hend, rfl⟩ := exists_of_full hu hfull
    exact exists_of_level hs rfl hend hlevel
  · cases h

end Whole

end FloScript.Pattern.Reader
