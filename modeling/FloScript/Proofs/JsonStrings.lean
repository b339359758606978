import FloScript.Json.Writer

/-! Strings of JSON: what is written for a text is ASCII, and reading it gives the text back. A
character is written as itself, as an escape of one letter, as the four digits of its code, or as
the codes of a pair, and the reader undoes each of the four. -/
namespace FloScript.Json

variable {whole start rest t : List Char} {c : Char} {s : List Char} {w n d : Nat}

@[simp] theorem ok_bind {ε α β : Type} (a : α) (f : α → Except ε β) : (Except.ok a >>= f) = f a :=
  rfl

/-! ### Codes -/

theorem hexDigits_one (h : d < 16) : Text.hexDigits 1 d = [d.digitChar] := by
  simp [Text.hexDigits, Nat.toDigits_of_lt_base h]

/-- One digit more on the left takes one digit from the right, also where the left is all zeros. -/
theorem hexDigits_succ (hw : 0 < w) :
    Text.hexDigits (w + 1) n = Text.hexDigits w (n / 16) ++ [(n % 16).digitChar] := by
  by_cases hn : n < 16
  · have hzero : n / 16 = 0 := by omega
    have hpad : w - 1 + 1 = w := by omega
    simp only [Text.hexDigits, Nat.toDigits_of_lt_base hn, hzero,
      Nat.mod_eq_of_lt hn, List.length_singleton, Nat.add_sub_cancel, Nat.toDigits_zero]
    rw [← List.replicate_succ', hpad]
  · simp [Text.hexDigits, Nat.toDigits_of_base_le (b := 16) (by decide) (Nat.le_of_not_lt hn)]

theorem hexDigits_four (h : n < 0x10000) : Text.hexDigits 4 n =
    [(n / 16 / 16 / 16).digitChar, (n / 16 / 16 % 16).digitChar, (n / 16 % 16).digitChar,
      (n % 16).digitChar] := by
  rw [hexDigits_succ (by decide), hexDigits_succ (by decide), hexDigits_succ (by decide),
    hexDigits_one (by omega)]
  rfl

theorem hexValue?_digitChar (h : d < 16) : hexValue? d.digitChar = some d := by
  have key : ∀ d : Fin 16, hexValue? (Nat.digitChar d) = some d.val := by decide
  exact key ⟨d, h⟩

theorem isAscii_digitChar (h : d < 16) : Text.isAscii d.digitChar = true := by
  have key : ∀ d : Fin 16, Text.isAscii (Nat.digitChar d) = true := by decide
  exact key ⟨d, h⟩

theorem fourDigits?_hexDigits (h : n < 0x10000) (rest : List Char) :
    fourDigits? (Text.hexDigits 4 n ++ rest) = some (n, rest) := by
  have ha := hexValue?_digitChar (d := n / 16 / 16 / 16) (by omega)
  have hb := hexValue?_digitChar (d := n / 16 / 16 % 16) (by omega)
  have hc := hexValue?_digitChar (d := n / 16 % 16) (by omega)
  have hd := hexValue?_digitChar (d := n % 16) (by omega)
  have hsum :
      ((n / 16 / 16 / 16 * 16 + n / 16 / 16 % 16) * 16 + n / 16 % 16) * 16 + n % 16 = n := by omega
  rw [hexDigits_four h]
  simp [fourDigits?, ha, hb, hc, hd, hsum]

theorem isAscii_hexDigits (h : n < 0x10000) (hc : c ∈ Text.hexDigits 4 n) :
    Text.isAscii c = true := by
  simp only [hexDigits_four h, List.mem_cons, List.not_mem_nil, or_false] at hc
  rcases hc with rfl | rfl | rfl | rfl <;> exact isAscii_digitChar (by omega)

theorem readCode_hexDigits (h : n < 0x10000) (hr : rest ≠ []) :
    readCode whole ('u' :: (Text.hexDigits 4 n ++ rest)) = .ok (n, rest) := by
  obtain ⟨c, cs, rfl⟩ := List.exists_cons_of_ne_nil hr
  simp [readCode, fourDigits?_hexDigits h]

/-- No character has the number of one half of a pair. -/
theorem toNat_not_half (c : Char) : c.toNat < 0xD800 ∨ 0xE000 ≤ c.toNat ∧ c.toNat < 0x110000 := by
  have h : c.toNat < 0xD800 ∨ 0xDFFF < c.toNat ∧ c.toNat < 0x110000 := c.valid
  omega

theorem charOf_toNat (c : Char) : charOf c.toNat = c := by
  have h := toNat_not_half c
  rw [charOf, if_neg (by simp only [Bool.and_eq_true, decide_eq_true_eq]; omega), Char.ofNat_toNat]

theorem isHigh_toNat (c : Char) : isHigh c.toNat = false := by
  have h := toNat_not_half c
  simp only [isHigh, Bool.and_eq_false_iff, decide_eq_false_iff_not]
  omega

/-- A code that is not the first half of a pair stands for a character by itself. -/
theorem readCoded_single (hh : isHigh n = false) (hcode : readCode whole s = .ok (n, rest)) :
    readCoded whole s = .ok (charOf n, rest) := by
  rw [readCoded, hcode, ok_bind]
  simp only [hh]
  rfl

theorem readCoded_pair {m : Nat} (hh : isHigh n = true) (hl : isLow m = true) (hr : rest ≠ [])
    (hcode : readCode whole s = .ok (n, '\\' :: 'u' :: t)) (hlength : 4 + rest.length ≤ t.length)
    (hmore : fourDigits? t = some (m, rest)) :
    readCoded whole s = .ok (Char.ofNat ((n - 0xD800) * 0x400 + (m - 0xDC00) + 0x10000), rest) := by
  have hlong : ¬ ('\\' :: 'u' :: t).length ≤ 6 := by
    have := List.length_pos_iff.mpr hr
    simp only [List.length_cons]
    omega
  rw [readCoded, hcode, ok_bind]
  simp only [hh, if_neg hlong, hmore, hl, if_true]
  rfl

theorem codeText_of_lt (h : c.toNat < 0x10000) :
    codeText c = '\\' :: 'u' :: Text.hexDigits 4 c.toNat := if_pos h

theorem codeText_of_le (h : ¬ c.toNat < 0x10000) : codeText c =
    '\\' :: 'u' :: Text.hexDigits 4 (0xD800 + (c.toNat - 0x10000) / 0x400) ++
      '\\' :: 'u' :: Text.hexDigits 4 (0xDC00 + (c.toNat - 0x10000) % 0x400) := if_neg h

/-- An escaped code is read as the character it was written for; the two halves of a pair make the
character that they were taken from. -/
theorem readCoded_codeText (whole : List Char) (c : Char) (hr : rest ≠ []) :
    ∃ code, codeText c = '\\' :: 'u' :: code ∧
      readCoded whole ('u' :: (code ++ rest)) = .ok (c, rest) := by
  by_cases hplane : c.toNat < 0x10000
  · refine ⟨Text.hexDigits 4 c.toNat, codeText_of_lt hplane, ?_⟩
    rw [readCoded_single (isHigh_toNat c) (readCode_hexDigits hplane hr), charOf_toNat]
  · -- the halves are named so that only their bounds are seen below
    have hc := toNat_not_half c
    obtain ⟨hi, hhi⟩ : ∃ hi, hi = 0xD800 + (c.toNat - 0x10000) / 0x400 := ⟨_, rfl⟩
    obtain ⟨lo, hlo⟩ : ∃ lo, lo = 0xDC00 + (c.toNat - 0x10000) % 0x400 := ⟨_, rfl⟩
    have hsum : (hi - 0xD800) * 0x400 + (lo - 0xDC00) + 0x10000 = c.toNat := by omega
    have hhigh : isHigh hi = true := by
      simp only [isHigh, Bool.and_eq_true, decide_eq_true_eq]
      omega
    have hlow : isLow lo = true := by
      simp only [isLow, Bool.and_eq_true, decide_eq_true_eq]
      omega
    have hlength : 4 + rest.length ≤ (Text.hexDigits 4 lo ++ rest).length := by
      rw [hexDigits_four (by omega), List.length_append]
      exact Nat.le_refl _
    have hfirst :
        readCode whole
          ('u' :: (Text.hexDigits 4 hi ++ '\\' :: 'u' :: (Text.hexDigits 4 lo ++ rest))) =
        .ok (hi, '\\' :: 'u' :: (Text.hexDigits 4 lo ++ rest)) :=
      readCode_hexDigits (by omega) (by simp)
    have htext :
        codeText c = '\\' :: 'u' ::
          (Text.hexDigits 4 hi ++ '\\' :: 'u' :: Text.hexDigits 4 lo) := by
      rw [codeText_of_le hplane, ← hhi, ← hlo, List.cons_append, List.cons_append]
    refine ⟨_, htext, ?_⟩
    rw [List.append_assoc, List.cons_append, List.cons_append,
      readCoded_pair hhigh hlow hr hfirst hlength (fourDigits?_hexDigits (by omega) rest), hsum,
      Char.ofNat_toNat]

theorem isAscii_codeText {d : Char} (hd : d ∈ codeText c) : Text.isAscii d = true := by
  have hc := toNat_not_half c
  have hunit : ∀ n < 0x10000, d ∈ '\\' :: 'u' :: Text.hexDigits 4 n → Text.isAscii d = true := by
    intro n hn hd
    rcases List.mem_cons.mp hd with rfl | hd
    · rfl
    rcases List.mem_cons.mp hd with rfl | hd
    · rfl
    exact isAscii_hexDigits hn hd
  by_cases hplane : c.toNat < 0x10000
  · rw [codeText, if_pos hplane] at hd
    exact hunit _ hplane hd
  · rw [codeText, if_neg hplane] at hd
    rcases List.mem_append.mp hd with hd | hd
    · exact hunit _ (by omega) hd
    · exact hunit _ (by omega) hd

/-! ### Characters -/

theorem isAscii_charText {d : Char} (hd : d ∈ charText c) : Text.isAscii d = true := by
  unfold charText at hd
  split at hd
  case h_8 =>
    split at hd
    · next hshown =>
      obtain rfl : d = c := List.mem_singleton.mp hd
      simp only [Bool.and_eq_true, decide_eq_true_eq] at hshown
      simp only [Text.isAscii, decide_eq_true_eq]
      omega
    · exact isAscii_codeText hd
  all_goals
    simp only [List.mem_cons, List.not_mem_nil, or_false] at hd
    rcases hd with rfl | rfl <;> rfl

/-- Reading goes on after the character `c` with the text after it. -/
theorem readChars_charText (hr : rest ≠ []) :
    readChars whole start (n + 1) (charText c ++ rest) =
      (readChars whole start n rest).map fun p => (c :: p.1, p.2) := by
  have hmap : ∀ x : Except Fault (List Char × List Char),
      (x >>= fun p => pure (c :: p.1, p.2)) = x.map fun p => (c :: p.1, p.2) := by
    intro x
    cases x <;> rfl
  unfold charText
  split
  case h_8 hquote hslash _ _ _ _ _ =>
    split
    · next hshown =>
      simp only [Bool.and_eq_true, decide_eq_true_eq] at hshown
      rw [List.singleton_append, readChars.eq_def]
      simp only [if_neg hquote, if_neg hslash, if_neg (show ¬ c.toNat < 0x20 by omega)]
      exact hmap _
    · obtain ⟨code, hcode, hread⟩ := readCoded_codeText whole c hr
      rw [hcode, List.cons_append, List.cons_append]
      simp only [readChars, if_true, hread, ok_bind]
      rw [if_neg (by decide)]
      exact hmap _
  all_goals exact hmap _

/-! ### Texts -/

theorem charText_ne_nil (c : Char) : charText c ≠ [] := by
  unfold charText
  split
  case h_8 =>
    split
    · simp
    · obtain ⟨code, hcode, -⟩ := readCoded_codeText [] c (List.cons_ne_nil '\x22' [])
      simp [hcode]
  all_goals simp

/-- Reading what is written for the characters `s` gives `s`, up to the closing quote. -/
theorem readChars_flatMap (h : s.length < n) :
    readChars whole start n (s.flatMap charText ++ '\x22' :: rest) = .ok (s, rest) := by
  induction s generalizing n with
  | nil =>
    obtain ⟨n, rfl⟩ : ∃ k, n = k + 1 := ⟨n - 1, by simp at h; omega⟩
    simp [readChars]
  | cons c s ih =>
    obtain ⟨n, rfl⟩ : ∃ k, n = k + 1 := ⟨n - 1, by simp at h; omega⟩
    rw [List.flatMap_cons, List.append_assoc, readChars_charText (by simp), ih (by simpa using h)]
    rfl

theorem length_le_length_flatMap (s : List Char) : s.length ≤ (s.flatMap charText).length := by
  induction s with
  | nil => simp
  | cons c s ih =>
    have := List.length_pos_iff.mpr (charText_ne_nil c)
    simp only [List.flatMap_cons, List.length_append, List.length_cons]
    omega

theorem toList_stringText (s : String) :
    (stringText s).toList = '\x22' :: (s.toList.flatMap charText ++ ['\x22']) := by
  simp [stringText]

theorem isAscii_stringText {s : String} (hc : c ∈ (stringText s).toList) :
    Text.isAscii c = true := by
  rw [toList_stringText] at hc
  rcases List.mem_cons.mp hc with rfl | hc
  · rfl
  rcases List.mem_append.mp hc with hc | hc
  · obtain ⟨d, -, hd⟩ := List.mem_flatMap.mp hc
    exact isAscii_charText hd
  · obtain rfl := List.mem_singleton.mp hc
    rfl

/-- What is written for a text is read as the text, whatever follows. -/
theorem readString_stringText (whole : List Char) (s : String) (rest : List Char) :
    readString whole ((stringText s).toList ++ rest) = .ok (s, rest) := by
  have hlength := length_le_length_flatMap s.toList
  have hfuel : s.toList.length < ((stringText s).toList ++ rest).length := by
    rw [toList_stringText]
    simp only [List.cons_append, List.length_cons, List.length_append]
    omega
  have hdrop :
      ((stringText s).toList ++ rest).drop 1 = s.toList.flatMap charText ++ '\x22' :: rest := by
    simp [toList_stringText]
  rw [readString, hdrop, readChars_flatMap hfuel, ok_bind]
  exact congrArg (fun t => Except.ok (t, rest)) String.ofList_toList

end FloScript.Json
