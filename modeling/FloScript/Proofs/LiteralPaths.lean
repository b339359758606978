import FloScript.Proofs.PatternAlternatives

/-! Which paths are matched literally: exactly those in which all characters stand for themselves,
as long as no groups and bounds occur in them. -/
namespace FloScript.Pattern

open Reader

variable {p : Pattern} {ps : List Pattern} {before before' u u' v rest rest' : List Char}
  {caps : List (Nat × List Char)} {c : Char}

section Contexts

theorem isEmpty_congr (h : rest.head? = rest'.head?) : rest.isEmpty = rest'.isEmpty := by
  cases rest <;> cases rest' <;> simp_all

theorem beq_newline (h : '\n' ∉ rest) : (rest == ['\n']) = false := by
  simp only [beq_eq_false_iff_ne]
  rintro rfl
  exact h (by simp)

/-- In a text of one line a place depends on the characters beside it only. -/
theorem satisfies_congr (hbefore : before.head? = before'.head?)
    (hrest : rest.head? = rest'.head?) (h : '\n' ∉ rest) (h' : '\n' ∉ rest') (a : Anchor) :
    Place.satisfies ⟨before, rest, []⟩ a = Place.satisfies ⟨before', rest', []⟩ a := by
  have hbefore' := isEmpty_congr hbefore
  have hrest' := isEmpty_congr hrest
  cases a with
  | textStart => exact hbefore'
  | lineStart => simp only [Place.satisfies, hbefore, hbefore']
  | textEnd => exact hrest'
  | lineEnd => simp only [Place.satisfies, hrest, hrest']
  | finalEnd => simp only [Place.satisfies, hrest', beq_newline h, beq_newline h']
  | boundary wanted ascii =>
    simp only [Place.satisfies, Place.isEmptyText, Place.atBoundary, hbefore,
      hbefore', hrest, hrest']

theorem spans_congr (hp : p.Flat) (hbefore : before.head? = before'.head?)
    (hrest : rest.head? = rest'.head?) (h : '\n' ∉ rest) (h' : '\n' ∉ rest')
    (hspans : Spans p before u rest caps) : Spans p before' u rest' caps := by
  cases p with
  | one => exact hspans
  | anchor a =>
    obtain ⟨rfl, ha, rfl⟩ := hspans
    exact ⟨rfl, (satisfies_congr hbefore hrest h h' a).symm.trans ha, rfl⟩
  | times p least most greed =>
    obtain ⟨set, rfl, hu, rfl⟩ := hspans
    exact ⟨set, rfl, ⟨hu.contains, hu.enough, hu.bounded, hrest ▸ hu.full⟩, rfl⟩
  | _ => exact hp.elim

theorem head?_append_congr (v : List Char) (h : rest.head? = rest'.head?) :
    (v ++ rest).head? = (v ++ rest').head? := by
  rw [List.head?_append, List.head?_append, h]

/-- So does a match. -/
theorem spans_inOrder_congr (hps : ∀ p ∈ ps, p.Flat) (hbefore : before.head? = before'.head?)
    (hrest : rest.head? = rest'.head?) (h : '\n' ∉ u ++ rest) (h' : '\n' ∉ u ++ rest')
    (hspans : Spans (inOrder ps) before u rest caps) : Spans (inOrder ps) before' u rest' caps := by
  induction ps generalizing before before' u caps with
  | nil => exact hspans
  | cons p ps ih =>
    obtain ⟨hp, hps⟩ := List.forall_mem_cons.mp hps
    obtain ⟨v, w, vs, ws, rfl, rfl, hv, hw⟩ := spans_cons.mp hspans
    rw [List.append_assoc] at h h'
    have hw' : '\n' ∉ w ++ rest := fun hmem => h (List.mem_append_right _ hmem)
    have hw'' : '\n' ∉ w ++ rest' := fun hmem => h' (List.mem_append_right _ hmem)
    refine spans_cons.mpr ⟨v, w, vs, ws, rfl, rfl, ?_,
      ih hps (head?_append_congr _ hbefore) hw' hw'' hw⟩
    exact spans_congr hp hbefore (head?_append_congr w hrest) hw' hw'' hv

end Contexts

section Pumping

/-- A character of the text stands twice in the other. -/
def Doubled (u u' : List Char) : Prop := ∃ x c y, u = x ++ c :: y ∧ u' = x ++ c :: c :: y

theorem Doubled.append_left (h : Doubled u u') (v : List Char) : Doubled (v ++ u) (v ++ u') := by
  obtain ⟨x, c, y, rfl, rfl⟩ := h
  exact ⟨v ++ x, c, y, by simp, by simp⟩

theorem Doubled.append_right (h : Doubled u u') (v : List Char) : Doubled (u ++ v) (u' ++ v) := by
  obtain ⟨x, c, y, rfl, rfl⟩ := h
  exact ⟨x, c, y ++ v, by simp, by simp⟩

theorem Doubled.head? (h : Doubled u u') (rest : List Char) :
    (u ++ rest).head? = (u' ++ rest).head? := by
  obtain ⟨x, c, y, rfl, rfl⟩ := h
  cases x <;> rfl

theorem Doubled.mem (h : Doubled u u') : c ∈ u' ↔ c ∈ u := by
  obtain ⟨x, d, y, rfl, rfl⟩ := h
  simp

theorem Doubled.ne (h : Doubled u u') : u' ≠ u := by
  obtain ⟨x, c, y, rfl, rfl⟩ := h
  intro heq
  simpa using congrArg List.length heq

theorem Doubled.reverse (h : Doubled u u') : Doubled u.reverse u'.reverse := by
  obtain ⟨x, c, y, rfl, rfl⟩ := h
  exact ⟨y.reverse, c, x.reverse, by simp, by simp⟩

/-- A text that a flat pattern matches is no longer than the pattern reaches, or another one is
matched as well in which a repeated character stands once more. -/
theorem exists_doubled (hp : p.Flat) (hspans : Spans p before u rest caps) :
    u.length ≤ p.reach ∨ ∃ u', Doubled u u' ∧ Spans p before u' rest caps := by
  cases p with
  | one =>
    obtain ⟨⟨c, rfl, -⟩, -⟩ := hspans
    exact .inl (Nat.le_refl 1)
  | anchor a =>
    obtain ⟨rfl, -⟩ := hspans
    exact .inl (Nat.le_refl 0)
  | times p least most greed =>
    obtain ⟨set, rfl, hu, rfl⟩ := hspans
    obtain ⟨-, rfl | ⟨rfl, rfl⟩⟩ := hp
    · cases u with
      | nil => exact .inl (Nat.zero_le _)
      | cons c u =>
        have hc := hu.contains c (by simp)
        have hdouble : Rounds set least none greed 0 (c :: c :: u) rest :=
          ⟨by simpa [hc] using hu.contains, Nat.le_succ_of_le hu.enough, by simp,
            fun h => .inr ((hu.full h).resolve_left (by simp))⟩
        exact .inr ⟨c :: c :: u, ⟨[], c, u, rfl, rfl⟩, set, rfl, hdouble, rfl⟩
    · exact .inl (Nat.le_trans (Nat.le_add_left _ 0) (hu.bounded 1 rfl))
  | _ => exact hp.elim

theorem exists_doubled_inOrder (hps : ∀ p ∈ ps, p.Flat) (hline : '\n' ∉ u ++ rest)
    (hspans : Spans (inOrder ps) before u rest caps) :
    u.length ≤ reaches ps ∨ ∃ u', Doubled u u' ∧ Spans (inOrder ps) before u' rest caps := by
  induction ps generalizing before u caps with
  | nil =>
    obtain ⟨rfl, -⟩ := hspans
    exact .inl (Nat.zero_le _)
  | cons p ps ih =>
    obtain ⟨hp, hps⟩ := List.forall_mem_cons.mp hps
    obtain ⟨v, w, vs, ws, rfl, rfl, hv, hw⟩ := spans_cons.mp hspans
    rw [List.append_assoc] at hline
    have hline' : '\n' ∉ w ++ rest := fun hmem => hline (List.mem_append_right _ hmem)
    rcases ih hps hline' hw with hle | ⟨w', hdoubled, hw'⟩
    · rcases exists_doubled hp hv with hle' | ⟨v', hdoubled, hv'⟩
      · exact .inl (by rw [List.length_append, reaches]; omega)
      · refine .inr ⟨v' ++ w, hdoubled.append_right w,
          spans_cons.mpr ⟨v', w, vs, ws, rfl, rfl, hv', ?_⟩⟩
        exact spans_inOrder_congr hps (hdoubled.reverse.head? before) rfl hline' hline' hw
    · refine .inr ⟨v ++ w', hdoubled.append_left v,
        spans_cons.mpr ⟨v, w', vs, ws, rfl, rfl, ?_, hw'⟩⟩
      have hline'' : '\n' ∉ w' ++ rest := by simpa [hdoubled.mem] using hline'
      exact spans_congr hp rfl (hdoubled.head? rest) hline' hline'' hv

end Pumping

end FloScript.Pattern

namespace FloScript.Route

open Pattern Pattern.Reader

variable {path p : String} {q : Named} {cs u rest : List Char} {caps : List (Nat × List Char)}
  {items : List (List Pattern)} {item : List Pattern}

/-- The path can be read as a pattern, and this matches the path alone. -/
def Literal (path : String) : Prop :=
  ∃ q, Pattern.read (pattern path) = .ok q ∧ ∀ p, '\n' ∉ p.toList →
    ((q.match? p).isSome = true ↔ p = path)

/-- All characters of the path stand for themselves. -/
def Plain (path : String) : Prop := (∀ c ∈ path.toList, c ∉ special) ∧ hasBounds path.toList = false

theorem pattern_of_no_colon (h : ':' ∉ path.toList) :
    pattern path = String.ofList ('^' :: (path.toList ++ ['$'])) := by
  have hexpand : expand none path.toList = path.toList := by
    simpa [expand] using expand_literal h []
  rw [pattern, hexpand]
  simp [String.append_assoc]

theorem isSome_match? : (q.match? p).isSome = true ↔ (q.pattern.match? p).isSome = true := by
  rw [Named.match?, Option.isSome_map]

theorem uncut_dollar (cs : List Char) : Uncut ('^' :: (cs ++ ['$'])) := by
  simp [Uncut, List.getLast?_cons]

section Reading

/-- The part of a pattern that a character is, if it stands for itself or is a dot. -/
def partOf (c : Char) : Part := if c = '.' then .any else .char c

def partsOf (cs : List Char) : List Part := .start :: (cs.map partOf ++ [.stop])

theorem texts_partsOf (cs : List Char) : Part.texts (cs.map partOf ++ [.stop]) = cs ++ ['$'] := by
  induction cs with
  | nil => rfl
  | cons c cs ih =>
    have hc : (partOf c).text = [c] := by
      unfold partOf
      split
      · next h => rw [h]; rfl
      · rfl
    rw [List.map_cons, List.cons_append, Part.texts, List.flatMap_cons, hc]
    exact congrArg (c :: ·) ih

theorem dropWhile_digits_concat (cs : List Char) :
    (cs ++ ['$']).dropWhile Char.isDigit = cs.dropWhile Char.isDigit ++ ['$'] := by
  rw [List.dropWhile_append]
  split
  · next h =>
    rw [List.isEmpty_iff.mp h]
    rfl
  · rfl

/-- The end that follows a path belongs to no bounds. -/
theorem startsCount_concat (cs : List Char) : startsCount (cs ++ ['$']) = startsCount cs := by
  unfold startsCount
  rw [dropWhile_digits_concat]
  cases hdrop : cs.dropWhile Char.isDigit with
  | nil => rfl
  | cons c rest =>
    have hcs : (cs ++ ['$']).head? = cs.head? := by
      cases cs with
      | nil => cases hdrop
      | cons d cs => rfl
    have hrest : (((rest ++ ['$']).dropWhile Char.isDigit).head? == some '\x7d') =
        ((rest.dropWhile Char.isDigit).head? == some '\x7d') := by
      rw [dropWhile_digits_concat]
      cases rest.dropWhile Char.isDigit <;> rfl
    rw [List.cons_append, hcs]
    by_cases hbrace : c = '\x7d'
    · subst hbrace
      rfl
    · by_cases hcomma : c = ','
      · subst hcomma
        exact hrest
      · simp [hbrace, hcomma]

theorem hasBounds_concat (cs : List Char) : hasBounds (cs ++ ['$']) = hasBounds cs := by
  induction cs with
  | nil => rfl
  | cons c cs ih => rw [List.cons_append, hasBounds, hasBounds, ih, startsCount_concat]

theorem readable_partsOf (hcs : ∀ c ∈ cs, c ∉ special ∨ c = '.') (hbounds : hasBounds cs = false) :
    Part.Readable [] (cs.map partOf ++ [.stop]) := by
  induction cs with
  | nil => exact ⟨trivial, trivial⟩
  | cons c cs ih =>
    obtain ⟨hc, hcs⟩ := List.forall_mem_cons.mp hcs
    have hname : (partOf c).name? = none := by
      unfold partOf
      split <;> rfl
    refine ⟨?_, by simpa [hname] using ih hcs (Bool.or_eq_false_iff.mp hbounds).2⟩
    change Part.Fits [] (Part.texts (cs.map partOf ++ [.stop])) (partOf c)
    rw [texts_partsOf]
    unfold partOf
    split
    · trivial
    · next hdot =>
      refine ⟨hc.resolve_right hdot, ?_⟩
      rintro rfl
      rw [startsCount_concat]
      exact startsCount_of_hasBounds hbounds

/-- A path in which only dots have a meaning is read character by character. -/
theorem read_dotted (hcolon : ':' ∉ path.toList) (hpath : ∀ c ∈ path.toList, c ∉ special ∨ c = '.')
    (hbounds : hasBounds path.toList = false) : ∃ names, Pattern.read (pattern path) =
      .ok ⟨inOrder (Part.patterns 1 (partsOf path.toList)), names⟩ := by
  have htexts : Part.texts (partsOf path.toList) = '^' :: (path.toList ++ ['$']) :=
    congrArg ('^' :: ·) (texts_partsOf path.toList)
  refine ⟨Part.names 1 (partsOf path.toList), ?_⟩
  rw [pattern_of_no_colon hcolon, ← htexts]
  refine Part.read_texts ⟨trivial, readable_partsOf hpath hbounds⟩ ?_ (List.cons_ne_nil _ _)
  rw [htexts]
  exact uncut_dollar _

theorem literal_of_plain (hcolon : ':' ∉ path.toList) (h : Plain path) : Literal path := by
  obtain ⟨hplain, hbounds⟩ := h
  obtain ⟨names, hread⟩ := read_dotted hcolon (fun c hc => .inl (hplain c hc)) hbounds
  have hparts : path.toList.map partOf = path.toList.map .char := by
    refine List.map_congr_left fun c hc => if_neg ?_
    rintro rfl
    exact hplain _ hc (by decide)
  refine ⟨_, hread, fun p hline => ?_⟩
  rw [isSome_match?, Pattern.isSome_match? (simple_inOrder.mpr (Part.simple_patterns 1 _)), partsOf,
    hparts]
  simp only [Part.spans_start, Part.spans_chars, Part.spans_stop]
  constructor
  · rintro ⟨u, rest, caps, hp, w, rfl, rfl, rfl, hrest⟩
    obtain rfl : rest = [] := hrest.resolve_right fun hrest => hline (by simp [hp, hrest])
    exact String.toList_inj.mp (by simpa using hp)
  · rintro rfl
    exact ⟨p.toList, [], [], by simp, [], by simp, rfl, rfl, .inl rfl⟩

end Reading

section Matching

/-- A flat pattern that matches no text but the given one. -/
def MatchesOnly (cs : List Char) (item : List Pattern) : Prop :=
  ∀ u rest caps, Spans (inOrder item) [] u rest caps → '\n' ∉ u ++ rest → u ++ rest = cs

/-- What matches one text only matches it to its end and reaches that far. -/
theorem MatchesOnly.bound (hflat : ∀ p ∈ item, p.Flat) (honly : MatchesOnly cs item)
    (hspans : Spans (inOrder item) [] u rest caps) (hline : '\n' ∉ u ++ rest) :
    rest = [] ∧ u.length ≤ reaches item := by
  have htext := honly u rest caps hspans hline
  constructor
  · cases rest with
    | nil => rfl
    | cons c rest =>
      have hline' : '\n' ∉ u ++ (c :: rest ++ ['a']) := by simpa using hline
      have hhead : (c :: rest).head? = (c :: rest ++ ['a']).head? := rfl
      have hlonger :=
        honly _ _ caps (spans_inOrder_congr hflat rfl hhead hline hline' hspans) hline'
      have hlength := congrArg List.length (hlonger.trans htext.symm)
      simp at hlength
  · rcases exists_doubled_inOrder hflat hline hspans with hle | ⟨u', hdoubled, hspans'⟩
    · exact hle
    · have hline' : '\n' ∉ u' ++ rest := by simpa [hdoubled.mem] using hline
      have hlonger := honly u' rest caps hspans' hline'
      exact absurd (List.append_cancel_right (hlonger.trans htext.symm)) hdoubled.ne

theorem dotted_of_alternatives (h : Alternatives (cs ++ ['$']) items) (hitem : item ∈ items)
    (hspans : Spans (inOrder item) [] cs [] caps) (hle : cs.length ≤ reaches item) :
    ∀ c ∈ cs, c ∉ special ∨ c = '.' := by
  have hstart : reaches (joined [.place (anchor .textStart)]) = 0 := rfl
  cases h with
  | only hread =>
    obtain rfl := List.mem_singleton.mp hitem
    obtain ⟨qs, hsteps, -, rfl⟩ := hread
    rcases hsteps.dollar with ⟨rs, hsteps, hreach⟩ | ⟨v, rs, rfl, -, rfl⟩
    · obtain ⟨hle', hplain⟩ := hsteps.reaches_le
      exact hplain (by omega)
    · -- The last character read is a dollar sign, but the path ends with a backslash.
      rw [Part.joined_cons] at hspans
      obtain ⟨x, y, _, _, htext, -, -, hy⟩ := spans_append.mp hspans
      obtain ⟨⟨c, rfl, hc⟩, -⟩ := spans_singleton.mp hy
      obtain rfl := (Part.contains_code '$' c).mp hc
      exact absurd (List.append_inj' htext rfl).2 (by decide)
  | @several v w _ _ htext hread hitems =>
    have hlength := congrArg List.length htext
    simp only [List.length_append, List.length_cons, List.length_nil] at hlength
    have hend : '$' ∈ w := by
      have hreverse : '$' :: cs.reverse = w.reverse ++ '|' :: v.reverse := by
        simpa using congrArg List.reverse htext
      cases hw : w.reverse with
      | nil =>
        rw [hw] at hreverse
        exact absurd (List.cons.inj hreverse).1 (by decide)
      | cons d ds =>
        rw [hw] at hreverse
        obtain rfl := (List.cons.inj hreverse).1
        exact List.mem_reverse.mp (by simp [hw])
    rcases List.mem_cons.mp hitem with rfl | hitem
    · obtain ⟨qs, hsteps, -, rfl⟩ := hread
      have hle' := hsteps.reaches_le.1
      have hpos := List.length_pos_of_mem hend
      omega
    · obtain ⟨x, hx, qs, hsteps, -, rfl⟩ := hitems item hitem
      obtain ⟨hle', hplain⟩ := hsteps.reaches_le
      have hxw := hx.length_le
      have hnil : reaches (joined []) = 0 := rfl
      obtain rfl : x = w := hx.eq_of_length (by omega)
      exact absurd (hplain (by omega) _ hend) (by decide)

theorem dotted_of_literal (hcolon : ':' ∉ path.toList) (hline : '\n' ∉ path.toList)
    (hopen : '(' ∉ path.toList) (hbounds : hasBounds path.toList = false) (h : Literal path) :
    ∀ c ∈ path.toList, c ∉ special ∨ c = '.' := by
  obtain ⟨q, hread, hmatch⟩ := h
  rw [pattern_of_no_colon hcolon] at hread
  obtain ⟨items, hitems, hsimple, hspans⟩ :=
    exists_alternatives (by simpa using hopen)
      ((hasBounds_concat _).trans hbounds) (uncut_dollar _) hread
  have hpath := isSome_match?.mp ((hmatch path hline).mpr rfl)
  obtain ⟨u, rest, caps, htext, hq⟩ := (Pattern.isSome_match? hsimple).mp hpath
  obtain ⟨item, hitem, hitem'⟩ := (hspans _ _ _ _).mp hq
  have honly : MatchesOnly path.toList item := by
    intro u rest caps hu hline'
    have hq : Spans q.pattern [] u rest caps := (hspans _ _ _ _).mpr ⟨item, hitem, hu⟩
    have hsome := (Pattern.isSome_match? hsimple).mpr ⟨u, rest, caps, String.toList_ofList, hq⟩
    have hpath :=
      (hmatch (String.ofList (u ++ rest)) (by simpa using hline')).mp (isSome_match?.mpr hsome)
    rw [← hpath, String.toList_ofList]
  rw [htext] at hline
  obtain ⟨rfl, hle⟩ := honly.bound (hitems.flat item hitem) hitem' hline
  rw [List.append_nil] at htext
  subst htext
  exact dotted_of_alternatives hitems hitem hitem' hle

theorem spans_partOf {n : Nat} {parts : List Part} {before : List Char} (hline : '\n' ∉ cs)
    (h : Spans (inOrder (Part.patterns n parts)) (cs.reverse ++ before) u rest caps) :
    Spans (inOrder (Part.patterns n (cs.map partOf ++ parts))) before (cs ++ u) rest caps := by
  induction cs generalizing before with
  | nil => exact h
  | cons c cs ih =>
    obtain ⟨hc, hcs⟩ := not_or.mp fun hmem => hline (List.mem_cons.mpr hmem)
    have htail := ih hcs (by simpa using h)
    rw [List.map_cons, List.cons_append, List.cons_append]
    unfold partOf
    split
    · exact Part.spans_any (Ne.symm hc) htail
    · exact Part.spans_char c htail

/-- A dot in the path is matched by another character, too. -/
theorem not_literal_of_dot (hcolon : ':' ∉ path.toList) (hline : '\n' ∉ path.toList)
    (hbounds : hasBounds path.toList = false) (hpath : ∀ c ∈ path.toList, c ∉ special ∨ c = '.')
    (hdot : '.' ∈ path.toList) : ¬ Literal path := by
  rintro ⟨q, hq, hmatch⟩
  obtain ⟨names, hread⟩ := read_dotted hcolon hpath hbounds
  obtain rfl := Except.ok.inj (hq.symm.trans hread)
  obtain ⟨x, y, htext⟩ := List.append_of_mem hdot
  rw [htext] at hline
  have hx : '\n' ∉ x := fun h => hline (by simp [h])
  have hy : '\n' ∉ y := fun h => hline (by simp [h])
  have hspans :
      Spans (inOrder (Part.patterns 1 (partsOf path.toList))) [] (x ++ 'a' :: y) [] [] := by
    rw [partsOf, Part.spans_start, htext, List.map_append, List.append_assoc]
    refine spans_partOf hx (Part.spans_any (by decide) ?_)
    simpa using spans_partOf hy (Part.spans_stop.mpr ⟨rfl, rfl, .inl rfl⟩)
  have hsome := (Pattern.isSome_match? (simple_inOrder.mpr (Part.simple_patterns 1 _))).mpr
    ⟨_, [], [], (String.toList_ofList (l := x ++ 'a' :: y)).trans (List.append_nil _).symm, hspans⟩
  have heq :=
    (hmatch (String.ofList (x ++ 'a' :: y)) (by simp [hx, hy])).mp (isSome_match?.mpr hsome)
  rw [← heq, String.toList_ofList] at htext
  simp at htext

end Matching

/-- A path in which all characters stand for themselves is matched literally. Among the paths
without groups and bounds these are the only ones. -/
theorem literal_path (path : String) (hcolon : ':' ∉ path.toList) (hline : '\n' ∉ path.toList) :
    (Plain path → Literal path) ∧
    ('(' ∉ path.toList → hasBounds path.toList = false → (Literal path ↔ Plain path)) := by
  refine ⟨literal_of_plain hcolon, fun hopen hbounds =>
    ⟨fun h => ⟨fun c hc => ?_, hbounds⟩, literal_of_plain hcolon⟩⟩
  have hdotted := dotted_of_literal hcolon hline hopen hbounds h
  refine (hdotted c hc).resolve_right ?_
  rintro rfl
  exact not_literal_of_dot hcolon hline hbounds hdotted hc h

theorem literal_hyphen_not_dot : Literal "/files/a-b" ∧ ¬ Literal "/files/a.b" := by
  have hhyphen := literal_path "/files/a-b" (by decide) (by decide)
  have hdot := literal_path "/files/a.b" (by decide) (by decide)
  refine ⟨hhyphen.1 ⟨by simp [special], by decide⟩, fun h => ?_⟩
  exact ((hdot.2 (by decide) (by decide)).mp h).1 '.' (by decide) (by decide)

end FloScript.Route
