import FloScript.Json.Writer
import FloScript.Proofs.Scanning

/-! Integers of JSON: what is written for an integer is read as the integer, if nothing follows that
could be taken for more of the number. -/
namespace FloScript.Json

variable {whole rest cs ds gap : List Char} {c : Char} {n : Nat} {i : Int}

/-! ### What stands between values -/

/-- Blanks only. -/
def Blank (cs : List Char) : Prop := ∀ c ∈ cs, isBlank c = true

/-- What can follow a value: nothing, a blank, a comma, or the end of a list or dict. -/
def Apart (cs : List Char) : Prop :=
  ∀ c ∈ cs.head?, isBlank c = true ∨ c = ',' ∨ c = ']' ∨ c = '\x7d'

theorem blank_nil : Blank [] := fun _ h => absurd h List.not_mem_nil

theorem blank_space : Blank [' '] := fun _ h => List.mem_singleton.mp h ▸ rfl

theorem eq_of_isBlank (h : isBlank c = true) : c = ' ' ∨ c = '\t' ∨ c = '\n' ∨ c = '\r' := by
  simpa [isBlank, or_assoc] using h

theorem Blank.isAscii (h : Blank cs) (hc : c ∈ cs) : Text.isAscii c = true := by
  rcases eq_of_isBlank (h c hc) with rfl | rfl | rfl | rfl <;> rfl

theorem apart_nil : Apart [] := fun _ hc => absurd hc (by simp)

theorem apart_cons (h : c = ',' ∨ c = ']' ∨ c = '\x7d') : Apart (c :: cs) := fun d hd => by
  obtain rfl : c = d := by simpa using hd
  exact .inr h

theorem Blank.apart_append (h : Blank gap) (hcs : Apart cs) : Apart (gap ++ cs) := by
  cases gap with
  | nil => exact hcs
  | cons b gap => exact fun c hc => .inl (h c (by simp_all))

theorem skipBlanks_append (h : Blank gap) (hc : isBlank c = false) :
    skipBlanks (gap ++ c :: cs) = c :: cs := by
  rw [skipBlanks, List.dropWhile_append_of_pos h, List.dropWhile_cons_of_neg (by simp [hc])]

theorem skipBlanks_cons (hc : isBlank c = false) : skipBlanks (c :: cs) = c :: cs :=
  skipBlanks_append blank_nil hc

/-- What follows a value does not go on with a number. -/
theorem Apart.head_ne (h : Apart (c :: cs)) : c.isDigit = false ∧ c ≠ '.' ∧ c ≠ 'e' ∧ c ≠ 'E' := by
  rcases h c rfl with hb | rfl | rfl | rfl
  · rcases eq_of_isBlank hb with rfl | rfl | rfl | rfl <;> decide
  all_goals decide

theorem Apart.fraction_eq (h : Apart rest) : fraction rest = ([], rest) := by
  unfold fraction
  split
  · exact absurd rfl h.head_ne.2.1
  · rfl

theorem Apart.exponent_eq (h : Apart rest) : exponent rest = ([], rest) := by
  unfold exponent
  split
  · obtain ⟨-, -, hsmall, hcapital⟩ := h.head_ne
    simp [hsmall, hcapital]
  · rfl

theorem Apart.takeWhile_append (h : Apart rest) (hd : ∀ c ∈ ds, c.isDigit = true) :
    (ds ++ rest).takeWhile Char.isDigit = ds := by
  rw [List.takeWhile_append_of_pos hd]
  cases rest with
  | nil => simp
  | cons c cs => rw [List.takeWhile_cons_of_neg (by simp [h.head_ne.1]), List.append_nil]

/-! ### Numbers -/

theorem isDigit_of_mem_digitsOf (h : c ∈ Number.digitsOf n) : c.isDigit = true :=
  Nat.isDigit_of_mem_toDigits (by decide) (by decide) h

theorem digitsOf_ne_nil (n : Nat) : Number.digitsOf n ≠ [] := Nat.toDigits_ne_nil

/-- Only zero is written with a leading zero. -/
theorem head?_digitsOf (hn : n ≠ 0) : (Number.digitsOf n).head? ≠ some '0' := by
  induction n using Nat.strongRecOn with
  | ind n ih =>
    by_cases hlt : n < 10
    · have key : ∀ d : Fin 10, d.val ≠ 0 → Nat.digitChar d ≠ '0' := by decide
      simpa [Number.digitsOf, Nat.toDigits_of_lt_base hlt] using key ⟨n, hlt⟩ hn
    · have hhead := ih (n / 10) (by omega) (by omega)
      obtain ⟨d, ds, hds⟩ := List.exists_cons_of_ne_nil (digitsOf_ne_nil (n / 10))
      rw [Number.digitsOf] at hds hhead ⊢
      rw [Nat.toDigits_of_base_le (by decide) (by omega)]
      simpa [hds] using hhead

theorem foldl_eq_ofDigitChars (hd : ∀ c ∈ ds, c.isDigit = true) (m : Nat) :
    ds.foldl (fun k c => if c.isDigit then 10 * k + (c.toNat - 48) else k) m =
      Nat.ofDigitChars 10 ds m := by
  induction ds generalizing m with
  | nil => rfl
  | cons d ds ih =>
    have hrest := ih fun c hc => hd c (by simp [hc])
    rw [List.foldl_cons, if_pos (hd d (by simp)), hrest, Nat.ofDigitChars_cons]
    rfl

theorem digitsValue_digitsOf (n : Nat) : Number.digitsValue (Number.digitsOf n) = n := by
  rw [Number.digitsValue, foldl_eq_ofDigitChars fun c hc => isDigit_of_mem_digitsOf hc]
  exact Nat.ofDigitChars_ten_toDigits

theorem readInteger_intText (h : (Number.digitsOf i.natAbs).length ≤ Number.digitLimit) :
    Number.readInteger (Literal.intText i) = .ok i := by
  have hd : ∀ c ∈ Number.digitsOf i.natAbs, c.isDigit = true :=
    fun c hc => isDigit_of_mem_digitsOf hc
  by_cases hi : i < 0
  · have hs : Number.takeSign ((Number.asciiText (Literal.intText i)).dropWhile Text.isAsciiBlank) =
        (true, Number.digitsOf i.natAbs) := by
      have hascii : ('-' :: Number.digitsOf i.natAbs).all Text.isAscii = true := by
        rw [List.all_cons, List.all_eq_true.mpr fun c hc => Scanner.isAscii_of_isDigit (hd c hc)]
        rfl
      have hlist : (Literal.intText i).toList = '-' :: Number.digitsOf i.natAbs := by
        simp [Literal.intText, hi]
      rw [Number.asciiText, hlist, if_pos hascii]
      rfl
    rw [Scanner.readInteger_of_takeSign hs hd (digitsOf_ne_nil _) h,
      digitsValue_digitsOf, if_pos rfl]
    exact congrArg Except.ok (by omega)
  · have htext : Literal.intText i = String.ofList (Number.digitsOf i.natAbs) := by
      simp [Literal.intText, hi]
    rw [htext, Scanner.readInteger_digits hd (digitsOf_ne_nil _) h, digitsValue_digitsOf]
    exact congrArg Except.ok (by omega)

theorem whole?_digitsOf (n : Nat) (hr : Apart rest) :
    whole? (Number.digitsOf n ++ rest) = some (Number.digitsOf n, rest) := by
  by_cases hn : n = 0
  · subst hn
    rfl
  have hd : ∀ c ∈ Number.digitsOf n, c.isDigit = true := fun c hc => isDigit_of_mem_digitsOf hc
  have hhead := head?_digitsOf hn
  obtain ⟨d, ds, hds⟩ := List.exists_cons_of_ne_nil (digitsOf_ne_nil n)
  rw [hds] at hd hhead ⊢
  have htake := hr.takeWhile_append hd
  unfold whole?
  split
  · next heq => exact absurd (congrArg List.head? heq) (by simpa using hhead)
  · next c cs _ heq =>
    obtain ⟨rfl, rfl⟩ : d = c ∧ ds ++ rest = cs := by simpa using heq
    rw [if_pos (hd d (by simp)), htake]
    exact congrArg (fun rest => some (d :: ds, rest)) List.drop_left
  · next heq => exact absurd heq (by simp)

theorem minus_intText (i : Int) : minus ((Literal.intText i).toList ++ rest) =
    (if i < 0 then ['-'] else [], Number.digitsOf i.natAbs ++ rest) := by
  by_cases hi : i < 0
  · simp [Literal.intText, hi, minus]
  · obtain ⟨d, ds, hds⟩ := List.exists_cons_of_ne_nil (digitsOf_ne_nil i.natAbs)
    have hd : d.isDigit = true := isDigit_of_mem_digitsOf (n := i.natAbs) (by simp [hds])
    simp only [Literal.intText, if_neg hi, hds, List.nil_append, String.toList_ofList, minus]
    split
    · next heq =>
      obtain rfl : d = '-' := (List.cons.inj heq).1
      exact absurd hd (by decide)
    · rfl

theorem readNumber_intText (h : (Number.digitsOf i.natAbs).length ≤ Number.digitLimit)
    (hr : Apart rest) :
    readNumber whole ((Literal.intText i).toList ++ rest) = .ok (.int i, rest) := by
  have hread := readInteger_intText h
  rw [Literal.intText] at hread
  simp only [readNumber, minus_intText, whole?_digitsOf _ hr, hr.fraction_eq,
    hr.exponent_eq, List.append_nil, hread]
  rfl

/-- Forty-three digits take less than a hundred and forty-three bits. -/
theorem lt_pow_bits {k : Nat} (hk : 0 < k) (h : (Nat.toDigits 10 n).length ≤ 43 * k) :
    n < Nat.pow (Nat.pow 2 143) k :=
  calc
    n < Nat.pow 10 (43 * k) := (Nat.length_toDigits_le_iff (by decide) (by omega)).mp h
    _ = Nat.pow (Nat.pow 10 43) k := Nat.pow_mul ..
    _ ≤ Nat.pow (Nat.pow 2 143) k := Nat.pow_le_pow_left (by decide) k

theorem integerText_eq (h : (Nat.toDigits 10 i.natAbs).length ≤ 4300) :
    integerText i = .ok (Literal.intText i) := by
  have hlt : i.natAbs < integerBound := lt_pow_bits (by decide) h
  rw [integerText, if_neg (Nat.not_le.mpr hlt)]
  exact if_neg (Nat.not_lt.mpr h)

end FloScript.Json
