import FloScript.Proofs.ScanFaults

/-! Which numbers have a value. The scanner takes for a number every run of digits with at most one
point among them. Digits are those of all scripts, which have a place in positional notation, and
figures such as superscripts, which do not; and a number without a point may be too long. -/
namespace FloScript

variable {c d : Char} {cs run xs : List Char} {f : Fault}

namespace Text

/-- Whether a digit has a place in positional notation. -/
def isDecimal (c : Char) : Bool := (decimalValue? c).isSome

theorem inRanges_eq_true_iff {table : List (Nat × Nat)} :
    inRanges table c = true ↔ ∃ r ∈ table, r.1 ≤ c.toNat ∧ c.toNat ≤ r.2 := by
  simp [inRanges]

theorem isDecimal_of_ascii (h : isAscii c = true) : isDecimal c = c.isDigit := by
  unfold isDecimal decimalValue?
  rw [if_pos h]
  cases c.isDigit <;> rfl

theorem isDigit_of_ascii (h : isAscii c = true) : isDigit c = c.isDigit := if_pos h

theorem isDigit_of_isDecimal (h : isDecimal c = true) : isDigit c = true := by
  cases ha : isAscii c with
  | true => rwa [isDigit_of_ascii ha, ← isDecimal_of_ascii ha]
  | false =>
    unfold isDigit
    rw [if_neg (by simp [ha]), Bool.or_eq_true]
    exact .inl h

/-- Outside ASCII a decimal digit is one of the ten that follow a zero. -/
theorem decimalValue?_eq_some {v : Nat} (h : isAscii c = false) (hv : decimalValue? c = some v) :
    ∃ z ∈ decimalZeros, c.toNat = z + v ∧ v ≤ 9 := by
  unfold decimalValue? at hv
  rw [if_neg (by simp [h])] at hv
  obtain ⟨z, hz, rfl⟩ := Option.map_eq_some_iff.mp hv
  have hmem := List.mem_of_find?_eq_some hz
  have hrange := List.find?_some hz
  simp only [Bool.and_eq_true, decide_eq_true_eq] at hrange
  exact ⟨z, hmem, by omega, by omega⟩

theorem isBlank_eq_false_of_isDigit (h : isAscii c = false) (hd : isDigit c = true) :
    isBlank c = false := by
  -- the table of blanks has no code point in common with the two tables of digits
  have hzeros : ∀ r ∈ blankRanges, ∀ z ∈ decimalZeros, r.2 < z ∨ z + 9 < r.1 := by decide
  have hfigures : ∀ r ∈ blankRanges, ∀ q ∈ figureRanges, r.2 < q.1 ∨ q.2 < r.1 := by decide
  unfold isBlank
  rw [if_neg (by simp [h])]
  rw [Bool.eq_false_iff]
  intro hblank
  obtain ⟨r, hr, hlow, hhigh⟩ := inRanges_eq_true_iff.mp hblank
  unfold isDigit at hd
  rw [if_neg (by simp [h]), Bool.or_eq_true] at hd
  rcases hd with hd | hd
  · obtain ⟨v, hv⟩ := Option.isSome_iff_exists.mp hd
    obtain ⟨z, hz, hc, hle⟩ := decimalValue?_eq_some h hv
    have := hzeros r hr z hz
    omega
  · obtain ⟨q, hq, hqlow, hqhigh⟩ := inRanges_eq_true_iff.mp hd
    have := hfigures r hr q hq
    omega

end Text

namespace Number

open Text

theorem asciiForm_of_ascii (h : isAscii c = true) (hc : c ≠ '\x7f') : asciiForm c = c := by
  have hne : c.toNat ≠ 127 := fun he => hc (Char.toNat_inj.mp he)
  simp only [isAscii, decide_eq_true_eq] at h
  exact if_pos (by omega)

/-- Outside ASCII only the value of a digit counts. -/
theorem asciiForm_of_isDigit (h : isAscii c = false) (hd : Text.isDigit c = true) :
    asciiForm c = ((decimalValue? c).map fun v => Char.ofNat (48 + v)).getD '?' := by
  have hge : ¬c.toNat < 127 := by
    simp only [isAscii, decide_eq_false_iff_not] at h
    omega
  have hblank : ¬isBlank c = true := by simp [isBlank_eq_false_of_isDigit h hd]
  unfold asciiForm
  rw [if_neg hge, if_neg hblank]
  cases decimalValue? c <;> rfl

theorem isDigit_asciiForm (h : isDecimal c = true) : (asciiForm c).isDigit = true := by
  cases ha : isAscii c with
  | true =>
    have hc : c.isDigit = true := by rwa [← isDecimal_of_ascii ha]
    rwa [asciiForm_of_ascii ha (Scanner.ne_of_isDigit hc rfl)]
  | false =>
    obtain ⟨v, hv⟩ := Option.isSome_iff_exists.mp h
    obtain ⟨z, -, -, hle⟩ := decimalValue?_eq_some ha hv
    have hten : ∀ v : Fin 10, (Char.ofNat (48 + v)).isDigit = true := by decide
    rw [asciiForm_of_isDigit ha (isDigit_of_isDecimal h), hv]
    exact hten ⟨v, by omega⟩

/-- A figure has the ASCII form of a sign that no number has. -/
theorem asciiForm_figure (hd : Text.isDigit c = true) (h : isDecimal c = false) :
    asciiForm c = '?' := by
  cases ha : isAscii c with
  | true =>
    rw [isDecimal_of_ascii ha, ← isDigit_of_ascii ha, hd] at h
    cases h
  | false =>
    have hnone : decimalValue? c = none := by simpa [isDecimal] using h
    rw [asciiForm_of_isDigit ha hd, hnone]
    rfl

/-- A number is read in its ASCII form. -/
theorem asciiText_eq_map (h : '\x7f' ∉ cs) : asciiText (String.ofList cs) = cs.map asciiForm := by
  unfold asciiText
  rw [String.toList_ofList]
  split
  · next hall =>
    have hsame : ∀ c ∈ cs, asciiForm c = id c := by
      intro c hc
      refine asciiForm_of_ascii (List.all_eq_true.mp hall c hc) ?_
      rintro rfl
      exact h hc
    rw [List.map_congr_left hsame, List.map_id]
  · rfl

/-- The characters of numbers in ASCII form: digits, the point, and the sign that stands for a
figure. -/
def Plain (xs : List Char) : Prop := ∀ x ∈ xs, x.isDigit = true ∨ x = '?' ∨ x = '.'

/-- Nothing, or what begins with the sign of a figure. -/
def Marked (rest : List Char) : Prop := ∀ x ∈ rest.head?, x = '?'

section Readers

variable {text : String} {ds ws fs rest : List Char}

theorem Plain.ne (h : Plain xs) (hd : d.isDigit = false) (hm : d ≠ '?') (hp : d ≠ '.') :
    d ∉ xs := by
  intro hmem
  rcases h d hmem with hx | rfl | rfl
  · rw [hd] at hx
    cases hx
  · exact hm rfl
  · exact hp rfl

theorem Plain.dropWhile_blank (h : Plain xs) : xs.dropWhile isAsciiBlank = xs := by
  cases xs with
  | nil => rfl
  | cons x xs =>
    refine List.dropWhile_cons_of_neg ?_
    rcases h x (by simp) with hd | rfl | rfl
    · have hn := Scanner.toNat_of_isDigit hd
      have hs := Scanner.ne_of_isDigit hd (d := ' ') rfl
      simp only [isAsciiBlank, Bool.or_eq_true, Bool.and_eq_true,
        decide_eq_true_eq, not_or, not_and]
      exact ⟨hs, by omega⟩
    · decide
    · decide

theorem Plain.takeSign_eq (h : Plain xs) : takeSign xs = (false, xs) := by
  unfold takeSign
  split
  · exact absurd (by simp) (h.ne (d := '+') (by decide) (by decide) (by decide))
  · exact absurd (by simp) (h.ne (d := '-') (by decide) (by decide) (by decide))
  · rfl

theorem underscoresBetween_of_not_mem (h : '_' ∉ cs) (b : Bool) :
    underscoresBetween b cs = true := by
  induction cs generalizing b with
  | nil => rfl
  | cons c cs ih =>
    obtain ⟨hc, hcs⟩ := not_or.mp (mt List.mem_cons.mpr h)
    rw [underscoresBetween.eq_3 _ _ _ fun he => hc he.symm]
    exact ih hcs _

theorem takeWhile_marked {p : Char → Bool} (hp : p '?' = false)
    (hd : ∀ x ∈ ds, p x = true) (hr : Marked rest) :
    (ds ++ rest).takeWhile p = ds ∧ (ds ++ rest).dropWhile p = rest := by
  rw [List.takeWhile_append_of_pos hd, List.dropWhile_append_of_pos hd]
  cases rest with
  | nil => exact ⟨List.append_nil _, rfl⟩
  | cons x rest =>
    obtain rfl := hr x rfl
    rw [List.takeWhile_cons_of_neg (by simp [hp]), List.dropWhile_cons_of_neg (by simp [hp])]
    exact ⟨List.append_nil _, rfl⟩

/-- Digits are read as an integer up to the sign of a figure; their number is looked at first. -/
theorem readInteger_run (ht : asciiText text = ds ++ rest) (hplain : Plain (ds ++ rest))
    (hd : ∀ x ∈ ds, x.isDigit = true) (hr : Marked rest) :
    readInteger text =
      if digitLimit < ds.length then .error (.tooLong ds.length)
      else if ds ≠ [] ∧ rest = [] then .ok (digitsValue ds)
      else .error .malformed := by
  have hin : ∀ x ∈ ds, (x.isDigit || x = '_') = true := fun x hx => by simp [hd x hx]
  obtain ⟨htake, hdrop⟩ := takeWhile_marked (p := fun x => x.isDigit || x = '_') rfl hin hr
  have hrest : Plain rest := fun x hx => hplain x (by simp [hx])
  have hcount : ds.countP Char.isDigit = ds.length := List.countP_eq_length.mpr hd
  unfold readInteger
  rw [ht, hplain.dropWhile_blank, hplain.takeSign_eq]
  simp only [htake, hdrop, hrest.dropWhile_blank, hcount, Scanner.underscoresBetween_digits hd]
  cases ds <;> cases rest <;> simp

/-- Digits before a point, and behind it. The number is read if nothing else is among them. -/
theorem readMagnitude_point (hw : ∀ x ∈ ws, x.isDigit = true) (hne : ws ≠ [])
    (hf : ∀ x ∈ fs, x.isDigit = true) (hr : Marked rest) :
    (readMagnitude false (ws ++ '.' :: (fs ++ rest))).isSome = rest.isEmpty := by
  obtain ⟨hftake, hfdrop⟩ := takeWhile_marked (p := Char.isDigit) rfl hf hr
  have htake : (ws ++ '.' :: (fs ++ rest)).takeWhile Char.isDigit = ws := by
    rw [List.takeWhile_append_of_pos hw, List.takeWhile_cons_of_neg (by decide), List.append_nil]
  have hdrop : (ws ++ '.' :: (fs ++ rest)).dropWhile Char.isDigit = '.' :: (fs ++ rest) := by
    rw [List.dropWhile_append_of_pos hw, List.dropWhile_cons_of_neg (by decide)]
  unfold readMagnitude
  simp only [htake, hdrop, hftake, hfdrop]
  rw [if_neg (by simp [hne]), Option.isSome_map]
  cases rest with
  | nil => rfl
  | cons x rest =>
    obtain rfl := hr x rfl
    rfl

/-- A number that goes on with another sign than a point is not read. -/
theorem readMagnitude_mark (hw : ∀ x ∈ ws, x.isDigit = true) :
    readMagnitude false (ws ++ '?' :: rest) = none := by
  have hr : Marked ('?' :: rest) := fun x hx => (Option.some.inj hx).symm
  obtain ⟨htake, hdrop⟩ := takeWhile_marked (p := Char.isDigit) rfl hw hr
  unfold readMagnitude
  simp only [htake, hdrop]
  cases ws <;> rfl

/-- In a number with a point there is nothing to trim or to leave out, and it is no name of a
number. -/
theorem readFloat_eq_readMagnitude (ht : asciiText text = xs) (h : Plain xs) (hp : '.' ∈ xs) :
    readFloat text = readMagnitude false xs := by
  have hreverse : Plain xs.reverse := fun x hx => h x (List.mem_reverse.mp hx)
  have htrim : trimBy isAsciiBlank xs = xs := by
    rw [trimBy, h.dropWhile_blank, hreverse.dropWhile_blank, List.reverse_reverse]
  have hname : ∀ name : String, '.' ∉ name.toList → String.ofList (xs.map Char.toLower) ≠ name := by
    rintro name hno rfl
    rw [String.toList_ofList] at hno
    exact hno (List.mem_map.mpr ⟨'.', hp, rfl⟩)
  have hscore : '_' ∉ xs := h.ne (by decide) (by decide) (by decide)
  have hfilter : xs.filter (· ≠ '_') = xs := by
    refine List.filter_eq_self.mpr fun x hx => decide_eq_true ?_
    rintro rfl
    exact hscore hx
  unfold readFloat
  rw [ht, htrim]
  simp only [h.takeSign_eq, hname "inf" (by decide), hname "infinity" (by decide),
    hname "nan" (by decide), underscoresBetween_of_not_mem hscore, hfilter, decide_false,
    Bool.or_self, Bool.not_true, Bool.false_eq_true,
    if_false]

end Readers

section Figures

variable (hd : ∀ c ∈ cs, Text.isDigit c = true)

include hd

theorem asciiText_of_isDigit : asciiText (String.ofList cs) = cs.map asciiForm := by
  refine asciiText_eq_map fun h => ?_
  exact absurd (hd _ h) (by decide)

theorem plain_map : Plain (cs.map asciiForm) := by
  intro x hx
  obtain ⟨c, hc, rfl⟩ := List.mem_map.mp hx
  cases h : isDecimal c with
  | true => exact .inl (isDigit_asciiForm h)
  | false => exact .inr (.inl (asciiForm_figure (hd c hc) h))

/-- The first figure, if there is one, comes right after the decimal digits in front. -/
theorem marked_map : Marked ((cs.dropWhile isDecimal).map asciiForm) := by
  intro x hx
  rw [List.head?_map] at hx
  obtain ⟨c, hc, rfl⟩ := Option.map_eq_some_iff.mp hx
  have hfigure := List.head?_dropWhile_not isDecimal cs
  rw [hc] at hfigure
  have hmem : c ∈ cs := (List.dropWhile_suffix isDecimal).subset (List.mem_of_mem_head? hc)
  exact asciiForm_figure (hd c hmem) (by simpa using hfigure)

end Figures

theorem map_asciiForm_split (cs : List Char) : cs.map asciiForm =
    (cs.takeWhile isDecimal).map asciiForm ++ (cs.dropWhile isDecimal).map asciiForm := by
  rw [← List.map_append, List.takeWhile_append_dropWhile]

theorem isDigit_of_mem_map (h : ∀ c ∈ cs, isDecimal c = true) :
    ∀ x ∈ cs.map asciiForm, x.isDigit = true := by
  intro x hx
  obtain ⟨c, hc, rfl⟩ := List.mem_map.mp hx
  exact isDigit_asciiForm (h c hc)

theorem isDecimal_of_mem_takeWhile (cs : List Char) :
    ∀ c ∈ cs.takeWhile isDecimal, isDecimal c = true :=
  fun _ h => List.mem_takeWhile_imp h

/-- Digits are an integer if all of them are decimal and there are not too many. -/
theorem readInteger_of_isDigit (hd : ∀ c ∈ cs, Text.isDigit c = true) :
    readInteger (String.ofList cs) =
      if digitLimit < (cs.takeWhile isDecimal).length then
        .error (.tooLong (cs.takeWhile isDecimal).length)
      else if cs ≠ [] ∧ cs.all isDecimal = true then .ok (digitsValue (cs.map asciiForm))
      else .error .malformed := by
  have hplain := plain_map hd
  rw [map_asciiForm_split cs] at hplain
  rw [readInteger_run ((asciiText_of_isDigit hd).trans (map_asciiForm_split cs)) hplain
    (isDigit_of_mem_map (isDecimal_of_mem_takeWhile cs)) (marked_map hd), List.length_map]
  congr 1
  by_cases hall : ∀ c ∈ cs, isDecimal c = true
  · rw [List.takeWhile_eq_self_iff.mpr hall, List.dropWhile_eq_nil_iff.mpr hall]
    by_cases hne : cs = []
    · simp [hne]
    · rw [if_pos ⟨by simpa using hne, rfl⟩, if_pos ⟨hne, List.all_eq_true.mpr hall⟩]
  · have hrest : cs.dropWhile isDecimal ≠ [] := mt List.dropWhile_eq_nil_iff.mp hall
    rw [if_neg fun h => hrest (List.map_eq_nil_iff.mp h.2), if_neg fun h =>
      hall (List.all_eq_true.mp h.2)]

section Points

variable {ws fs : List Char}

theorem asciiText_point (hw : ∀ c ∈ ws, Text.isDigit c = true)
    (hf : ∀ c ∈ fs, Text.isDigit c = true) :
    asciiText (String.ofList (ws ++ '.' :: fs)) = ws.map asciiForm ++ '.' :: fs.map asciiForm := by
  have hpoint : asciiForm '.' = '.' := rfl
  rw [asciiText_eq_map, List.map_append, List.map_cons, hpoint]
  simp only [List.mem_append, List.mem_cons, not_or]
  exact ⟨fun h => absurd (hw _ h) (by decide), by decide, fun h => absurd (hf _ h) (by decide)⟩

theorem plain_point (hw : ∀ c ∈ ws, Text.isDigit c = true) (hf : ∀ c ∈ fs, Text.isDigit c = true) :
    Plain (ws.map asciiForm ++ '.' :: fs.map asciiForm) := by
  intro x hx
  rcases List.mem_append.mp hx with hx | hx
  · exact plain_map hw x hx
  · rcases List.mem_cons.mp hx with rfl | hx
    · exact .inr (.inr rfl)
    · exact plain_map hf x hx

/-- Digits with a point among them are a number if all of them are decimal. -/
theorem readFloat_of_isDigit (hw : ∀ c ∈ ws, Text.isDigit c = true) (hne : ws ≠ [])
    (hf : ∀ c ∈ fs, Text.isDigit c = true) :
    (readFloat (String.ofList (ws ++ '.' :: fs))).isSome = true ↔
      (∀ c ∈ ws, isDecimal c = true) ∧ ∀ c ∈ fs, isDecimal c = true := by
  rw [readFloat_eq_readMagnitude (asciiText_point hw hf) (plain_point hw hf) (by simp)]
  by_cases hall : ∀ c ∈ ws, isDecimal c = true
  · rw [map_asciiForm_split fs, readMagnitude_point (isDigit_of_mem_map hall) (by simpa using hne)
      (isDigit_of_mem_map (isDecimal_of_mem_takeWhile fs)) (marked_map hf),
      and_iff_right hall, List.isEmpty_iff, List.map_eq_nil_iff, List.dropWhile_eq_nil_iff]
  · have hmark := marked_map hw
    rw [map_asciiForm_split ws]
    obtain ⟨c, cs, hc⟩ := List.exists_cons_of_ne_nil (mt List.dropWhile_eq_nil_iff.mp hall)
    rw [hc, List.map_cons] at hmark ⊢
    rw [hmark _ rfl, List.append_assoc, List.cons_append,
      readMagnitude_mark (isDigit_of_mem_map (isDecimal_of_mem_takeWhile ws))]
    simp [hall]

end Points

end Number

namespace Scanner

open Text (isDecimal)

/-- What the scanner takes for a number: digits with at most one point among them, a digit first. -/
structure IsNumber (run : List Char) : Prop where
  digits : ∀ d ∈ run, d = '.' ∨ Text.isDigit d = true
  points : run.count '.' ≤ 1
  opens : ∃ c ∈ run.head?, Text.isDigit c = true

/-- The number that comes next in a text. -/
def number? (text : List Char) : Option (List Char) :=
  if text.head?.any Text.isDigit then some (numberRun false text) else none

/-- A number has a value if its digits are decimal and, unless it has a point, there are not too
many of them. -/
def Valued (run : List Char) : Prop :=
  (∀ c ∈ run, c = '.' ∨ isDecimal c = true) ∧ ('.' ∈ run ∨ run.length ≤ Number.digitLimit)

/-- What is wrong with a number that has no value. Too many digits are noticed before a figure
behind them. -/
def numberFault (run : List Char) : ValueFault :=
  if '.' ∈ run then .floatText (String.ofList run)
  else if Number.digitLimit < (run.takeWhile isDecimal).length then
    .integerTooLong (run.takeWhile isDecimal).length
  else .integerText (String.ofList run)

theorem isNumber_of_number? {text : List Char} (h : number? text = some run) :
    IsNumber run ∧ ∃ c cs, text = c :: cs ∧ Text.isDigit c = true ∧
      run = numberRun false (c :: cs) := by
  unfold number? at h
  split at h
  · next hhead =>
    cases h
    cases text with
    | nil => cases hhead
    | cons c cs =>
      have hc : Text.isDigit c = true := hhead
      obtain ⟨-, hall, hcount⟩ := numberRun_shape false (c :: cs)
      refine ⟨⟨hall, hcount, c, ?_, hc⟩, c, cs, rfl, hc, rfl⟩
      rw [numberRun_cons hc]
      rfl
  · cases h

theorem IsNumber.split (h : IsNumber run) (hp : '.' ∈ run) :
    ∃ ws fs, run = ws ++ '.' :: fs ∧ ws ≠ [] ∧
    (∀ c ∈ ws, Text.isDigit c = true) ∧ ∀ c ∈ fs, Text.isDigit c = true := by
  obtain ⟨hall, hcount, c, hhead, hc⟩ := h
  obtain ⟨ws, fs, rfl⟩ := List.append_of_mem hp
  have hno : ws.count '.' = 0 ∧ fs.count '.' = 0 := by
    rw [List.count_append, List.count_cons_self] at hcount
    omega
  have hdigit : ∀ xs : List Char, xs.count '.' = 0 → (∀ x ∈ xs, x ∈ ws ++ '.' :: fs) →
      ∀ x ∈ xs, Text.isDigit x = true := by
    intro xs hxs hsub x hx
    refine (hall x (hsub x hx)).resolve_left ?_
    rintro rfl
    exact List.count_eq_zero.mp hxs hx
  refine ⟨ws, fs, rfl, ?_, hdigit ws hno.1 (by simp_all), hdigit fs hno.2 (by simp_all)⟩
  rintro rfl
  obtain rfl : '.' = c := by simpa using hhead
  exact absurd hc (by decide)

theorem ne_point_of_isDigit (h : Text.isDigit c = true) : c ≠ '.' := by
  rintro rfl
  exact absurd h (by decide)

section Values

variable {ws fs : List Char}

theorem valued_point (hw : ∀ c ∈ ws, Text.isDigit c = true) (hf : ∀ c ∈ fs, Text.isDigit c = true) :
    Valued (ws ++ '.' :: fs) ↔ (∀ c ∈ ws, isDecimal c = true) ∧ ∀ c ∈ fs, isDecimal c = true := by
  constructor
  · rintro ⟨hall, -⟩
    exact ⟨fun c hc => (hall c (by simp [hc])).resolve_left (ne_point_of_isDigit (hw c hc)),
      fun c hc => (hall c (by simp [hc])).resolve_left (ne_point_of_isDigit (hf c hc))⟩
  · rintro ⟨hws, hfs⟩
    refine ⟨fun c hc => ?_, .inl (by simp)⟩
    rcases List.mem_append.mp hc with hc | hc
    · exact .inr (hws c hc)
    · rcases List.mem_cons.mp hc with rfl | hc
      · exact .inl rfl
      · exact .inr (hfs c hc)

theorem numberValue_point (hw : ∀ c ∈ ws, Text.isDigit c = true) (hne : ws ≠ [])
    (hf : ∀ c ∈ fs, Text.isDigit c = true) : numberValue (ws ++ '.' :: fs) = .error f ↔
      ¬Valued (ws ++ '.' :: fs) ∧ f = .value (numberFault (ws ++ '.' :: fs)) := by
  have hp : '.' ∈ ws ++ '.' :: fs := by simp
  have hcontains : (ws ++ '.' :: fs).contains '.' = true := by simp
  rw [valued_point hw hf, ← Number.readFloat_of_isDigit hw hne hf,
    numberFault, if_pos hp, numberValue]
  simp only [hcontains, if_true]
  cases Number.readFloat (String.ofList (ws ++ '.' :: fs)) with
  | some x => simp
  | none => simp [eq_comm]

theorem valued_whole (hd : ∀ c ∈ run, Text.isDigit c = true) :
    Valued run ↔ (∀ c ∈ run, isDecimal c = true) ∧ run.length ≤ Number.digitLimit := by
  have hp : '.' ∉ run := fun h => ne_point_of_isDigit (hd _ h) rfl
  unfold Valued
  rw [or_iff_right hp]
  refine and_congr_left fun _ => forall₂_congr fun c hc => ?_
  rw [or_iff_right (ne_point_of_isDigit (hd c hc))]

theorem numberValue_whole (hd : ∀ c ∈ run, Text.isDigit c = true) (hne : run ≠ []) :
    numberValue run = .error f ↔ ¬Valued run ∧ f = .value (numberFault run) := by
  have hp : '.' ∉ run := fun h => ne_point_of_isDigit (hd _ h) rfl
  have hcontains : run.contains '.' = false := by simpa using hp
  rw [valued_whole hd, numberFault, if_neg hp, numberValue]
  simp only [hcontains, Bool.false_eq_true, if_false, Number.readInteger_of_isDigit hd]
  by_cases hlong : Number.digitLimit < (run.takeWhile isDecimal).length
  · have hnot : ¬((∀ c ∈ run, isDecimal c = true) ∧ run.length ≤ Number.digitLimit) := by
      rintro ⟨hall, hle⟩
      rw [List.takeWhile_eq_self_iff.mpr hall] at hlong
      omega
    rw [and_iff_right hnot]
    simp [hlong, Fault.ofInteger, eq_comm]
  · simp only [hlong, if_false]
    by_cases hall : ∀ c ∈ run, isDecimal c = true
    · rw [List.takeWhile_eq_self_iff.mpr hall] at hlong
      rw [if_pos ⟨hne, List.all_eq_true.mpr hall⟩]
      refine iff_of_false ?_ fun h => h.1 ⟨hall, by omega⟩
      rintro ⟨⟩
    · rw [if_neg fun h => hall (List.all_eq_true.mp h.2), and_iff_right fun h => hall h.1]
      simp [Fault.ofInteger, eq_comm]

end Values

/-- A number without a value is refused for what is wrong with it, and no other number is. -/
theorem numberValue_eq_error_iff (h : IsNumber run) :
    numberValue run = .error f ↔ ¬Valued run ∧ f = .value (numberFault run) := by
  by_cases hp : '.' ∈ run
  · obtain ⟨ws, fs, rfl, hne, hw, hf⟩ := h.split hp
    exact numberValue_point hw hne hf
  · obtain ⟨hall, -, c, hhead, -⟩ := h
    refine numberValue_whole (fun d hd => (hall d hd).resolve_left ?_) ?_
    · rintro rfl
      exact hp hd
    · rintro rfl
      cases hhead

theorem flaw?_number {text : List Char} (h : number? text = some run) (hv : ¬Valued run) :
    flaw? text = some (run.length, .number (numberFault run)) := by
  obtain ⟨hnumber, c, cs, rfl, hc, rfl⟩ := isNumber_of_number? h
  have hne : ∀ d, Text.isDigit d = false → c ≠ d := by
    rintro d hd rfl
    rw [hc] at hd
    cases hd
  have hstarts : ¬(isGap c || c = '#' || c = '\n') = true := by
    simp [isGap, hne ' ' (by decide), hne '\t' (by decide),
      hne '\r' (by decide), hne '#' (by decide), hne '\n' (by decide)]
  have hquote : ¬(c = '\x22' || c = '\x27') = true := by
    simp [hne '\x22' (by decide), hne '\x27' (by decide)]
  rw [flaw?, if_neg hstarts, if_neg hquote, if_pos hc,
    (numberValue_eq_error_iff hnumber).mpr ⟨hv, rfl⟩]

theorem number?_of_flaw {text : List Char} {n : Nat} {cause : ValueFault}
    (h : flaw? text = some (n, .number cause)) : ∃ run, number? text = some run ∧ ¬Valued run := by
  cases text with
  | nil => cases h
  | cons c cs =>
    rw [flaw?] at h
    split at h
    · cases h
    split at h
    · split at h <;> cases h
    split at h
    · next hc =>
      have hnumber : number? (c :: cs) = some (numberRun false (c :: cs)) := if_pos hc
      refine ⟨_, hnumber, ?_⟩
      split at h
      · next e he => exact ((numberValue_eq_error_iff (isNumber_of_number? hnumber).1).mp he).1
      · cases h
    split at h
    · cases h
    split at h <;> cases h

theorem tokensOf_of_valueless {source : String} {s : Scanner} (hcomes : Comes (ofSource source) s)
    (hnumber : number? s.rest = some run) (hv : ¬Valued run) :
    tokensOf source = .error (.value (numberFault run)) :=
  tokensOf_eq_error_iff.mpr ⟨s, _, _, hcomes, flaw?_number hnumber hv, rfl⟩

/-- Reading a text gives its tokens or a fault at a place of the text, unless it comes to a number
without a value: this is a fault of its own, which has no place. -/
theorem tokensOf_unless_valueless (source : String) :
    (((∃ ts, tokensOf source = .ok ts) ∨ ∃ p cause, tokensOf source = .error (.lexical p cause)) ↔
      ∀ s run, Comes (ofSource source) s → number? s.rest = some run → Valued run) ∧
    ∀ s run, Comes (ofSource source) s → number? s.rest = some run → ¬Valued run →
      tokensOf source = .error (.value (numberFault run)) := by
  refine ⟨⟨?_, ?_⟩, fun s run hcomes hnumber hv => tokensOf_of_valueless hcomes hnumber hv⟩
  · intro hread s run hcomes hnumber
    by_contra hv
    have herror := tokensOf_of_valueless hcomes hnumber hv
    rcases hread with ⟨ts, hts⟩ | ⟨p, cause, hlexical⟩
    · cases hts.symm.trans herror
    · cases hlexical.symm.trans herror
  · intro hall
    cases hresult : tokensOf source with
    | ok ts => exact .inl ⟨ts, rfl⟩
    | error f =>
      obtain ⟨u, n, w, hcomes, hflaw, rfl⟩ := tokensOf_eq_error_iff.mp hresult
      cases w with
      | openString => exact .inr ⟨_, _, rfl⟩
      | character c => exact .inr ⟨_, _, rfl⟩
      | number cause =>
        obtain ⟨run, hnumber, hv⟩ := number?_of_flaw hflaw
        exact absurd (hall u run hcomes hnumber) hv

theorem tokensOf_superscript : tokensOf "x ²" = .error (.value (.integerText "²")) := by
  have hcomes : Comes (ofSource "x ²") ((ofSource "x ²").take 1 (some (.plain .identifier "x"))) :=
    comes_of_lexeme rfl rfl rfl
  have hrest :
      Comes (ofSource "x ²") (((ofSource "x ²").take 1 (some (.plain .identifier "x"))).skip 1) :=
    hcomes.trans (.blank rfl rfl (.refl _))
  refine (tokensOf_unless_valueless "x ²").2 _ ['²'] hrest rfl ?_
  rintro ⟨hall, -⟩
  exact absurd (hall '²' (by simp)) (by decide)

end Scanner
end FloScript
