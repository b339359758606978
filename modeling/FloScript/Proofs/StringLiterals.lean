import FloScript.Proofs.ScanFaults

/-! Strings written between quotes and read back. A backslash and the quote are escaped; newlines,
tabs and returns may be written by their letters, and each of them in its own way. -/
namespace FloScript.Scanner

variable {q c : Char} {named : Nat → Bool} {cs body v rest : List Char}

/-- A character of a string between quotes `q`. A newline, a tab or a return is written by its
letter if it is to be `named`. -/
def escapeChar (q : Char) (named : Bool) (c : Char) : List Char :=
  if c = '\\' ∨ c = q then ['\\', c]
  else if named ∧ c = '\n' then ['\\', 'n']
  else if named ∧ c = '\t' then ['\\', 't']
  else if named ∧ c = '\r' then ['\\', 'r']
  else [c]

/-- The characters of a string; `named` says of each place whether the character there is to be
named. -/
def escape (q : Char) (named : Nat → Bool) : List Char → List Char
  | [] => []
  | c :: cs => escapeChar q (named 0) c ++ escape q (fun i => named (i + 1)) cs

/-- A string as it stands in a source text. -/
def stringLiteral (q : Char) (named : Nat → Bool) (s : String) : String :=
  String.ofList (q :: (escape q named s.toList ++ [q]))

theorem quotes_escapeChar (hq : q = '\x22' ∨ q = '\x27') (b : Bool)
    (c : Char) (h : Quotes q body v) :
    Quotes q (escapeChar q b c ++ body) (c :: v) := by
  unfold escapeChar
  split
  · next hc =>
    have hsame : unescape c = c := by
      rcases hc with rfl | rfl
      · rfl
      · rcases hq with rfl | rfl <;> rfl
    have hescaped : Quotes q ('\\' :: c :: body) (unescape c :: v) := .escaped h
    rwa [hsame] at hescaped
  next hc =>
  split
  · next hn =>
    rw [hn.2]
    exact .escaped h
  split
  · next hn =>
    rw [hn.2]
    exact .escaped h
  split
  · next hn =>
    rw [hn.2]
    exact .escaped h
  · exact .plain (fun he => hc (.inr he)) (fun he => hc (.inl he)) h

/-- What is written for a string stands for it, whatever is named in it. -/
theorem quotes_escape (hq : q = '\x22' ∨ q = '\x27') (named : Nat → Bool) (cs : List Char) :
    Quotes q (escape q named cs) cs := by
  induction cs generalizing named with
  | nil => exact .nil
  | cons c cs ih => exact quotes_escapeChar hq _ c (ih _)

theorem piece?_stringLiteral (hq : q = '\x22' ∨ q = '\x27') (named : Nat → Bool)
    (s : String) (rest : List Char) :
    piece? ((stringLiteral q named s).toList ++ rest) =
      some ((stringLiteral q named s).toList.length, some (.plain .string s)) := by
  have hne : q ≠ '\\' := by rcases hq with rfl | rfl <;> decide
  rw [stringLiteral, String.toList_ofList, List.cons_append,
    List.append_assoc, List.singleton_append,
    piece?_quote hq, stringBody_quotes hne (quotes_escape hq named s.toList)]
  simp

theorem not_gap_of_quote (hq : q = '\x22' ∨ q = '\x27') : isGap q = false := by
  rcases hq with rfl | rfl <;> rfl

/-- Wherever a string comes next it is read to its closing quote. -/
theorem lexeme_stringLiteral {s : String} {t : Scanner}
    (hq : q = '\x22' ∨ q = '\x27') (named : Nat → Bool)
    (hr : t.rest = (stringLiteral q named s).toList ++ rest) :
    ∃ u, lexeme q t = .ok () u ∧ Comes t u ∧ u.rest = rest ∧
      u.tokens.toList = t.tokens.toList ++ [⟨.string, .text s, t.place⟩] := by
  have hpiece := piece?_stringLiteral hq named s rest
  have hcons : t.rest = q :: (escape q named s.toList ++ [q] ++ rest) := by simp [hr, stringLiteral]
  rw [← hr] at hpiece
  have hlexeme := (lexeme_eq_ok_iff hcons).mpr ⟨_, _, hpiece, rfl⟩
  refine ⟨_, hlexeme, comes_of_lexeme hcons (not_gap_of_quote hq) hlexeme, ?_, ?_⟩
  · rw [rest_take, hr, List.drop_left]
  · simp [Scanner.take, Lexeme.token, Lexeme.plain]

/-- Behind a text that is read to its end and has a newline there, or is empty, every text is read
from its start. -/
theorem comes_behind {before : String} {us : List Token} {p : Position}
    (h : tokensOf before = .ok (us ++ [⟨.eof, .null, p⟩]))
    (hl : before = "" ∨ ∃ line, before = line ++ "\n") (after : String) :
    ∃ t, Comes (ofSource (before ++ after)) t ∧ t.rest = after.toList ∧ t.tokens.toList = us ∧
      t.place = p := by
  obtain ⟨r, hr, hend, hus⟩ := tokensOf_eq_ok_iff.mp h
  obtain ⟨rfl, he⟩ := List.append_inj' hus rfl
  obtain rfl : p = r.place := by simpa using he
  have hfollows : Follows 0 [] after.toList (ofSource before) (ofSource (before ++ after)) :=
    ⟨by simp [ofSource], rfl, rfl⟩
  have hcut : Cut (ofSource before).rest after.toList := by
    refine .inr fun c hc => ?_
    rcases hl with rfl | ⟨line, rfl⟩
    · cases hc
    · simpa [ofSource, eq_comm] using hc
  obtain ⟨t, ht, hft⟩ := hfollows.comes hr hcut
  exact ⟨t, ht, by rw [hft.rest, hend, List.nil_append], by simp [hft.tokens], hft.place⟩

theorem tokensOf_stringLiteral (hq : q = '\x22' ∨ q = '\x27') (named : Nat → Bool) (s : String) :
    tokensOf (stringLiteral q named s) = .ok [⟨.string, .text s, ⟨1, 1⟩⟩,
      ⟨.eof, .null, Position.behind (stringLiteral q named s).toList⟩] := by
  have hr : (ofSource (stringLiteral q named s)).rest = (stringLiteral q named s).toList ++ [] := by
    simp [ofSource]
  obtain ⟨u, -, hcomes, hend, htokens⟩ := lexeme_stringLiteral hq named hr
  refine tokensOf_eq_ok_iff.mpr ⟨u, hcomes, hend, ?_⟩
  rw [htokens, place_of_comes hcomes hend]
  rfl

/-- A string is read back from its literal. Behind lines that can be read, and before any text, its
token is the next one, reading it ends behind its closing quote, and it stays among the tokens
however reading goes on. -/
theorem stringLiteral_read (hq : q = '\x22' ∨ q = '\x27') (named : Nat → Bool) (s : String) :
    tokensOf (stringLiteral q named s) = .ok [⟨.string, .text s, ⟨1, 1⟩⟩,
        ⟨.eof, .null, Position.behind (stringLiteral q named s).toList⟩] ∧
      ∀ (before after : String) (us : List Token) (p : Position),
        tokensOf before = .ok (us ++ [⟨.eof, .null, p⟩]) →
        (before = "" ∨ ∃ line, before = line ++ "\n") →
        ∃ t u, Comes (ofSource (before ++ stringLiteral q named s ++ after)) t ∧
          t.rest = (stringLiteral q named s).toList ++ after.toList ∧ t.tokens.toList = us ∧
          lexeme q t = .ok () u ∧ u.rest = after.toList ∧
          u.tokens.toList = us ++ [⟨.string, .text s, p⟩] ∧
          us ++ [⟨.string, .text s, p⟩] <+:
            (endState tokenize
              (ofSource (before ++ stringLiteral q named s ++ after))).tokens.toList := by
  refine ⟨tokensOf_stringLiteral hq named s, ?_⟩
  intro before after us p hbefore hline
  obtain ⟨t, ht, hr, rfl, rfl⟩ := comes_behind hbefore hline (stringLiteral q named s ++ after)
  rw [String.toList_append] at hr
  obtain ⟨u, hu, hcomes, hend, htokens⟩ := lexeme_stringLiteral hq named hr
  rw [String.append_assoc]
  refine ⟨t, u, ht, hr, rfl, hu, hend, htokens, ?_⟩
  rw [← htokens]
  exact tokens_prefix_of_comes (ht.trans hcomes)

theorem stringLiteral_read_mixed :
    stringLiteral '\x22' (· = 0) "\n'\n\x22" = "\x22\\n'\n\\\x22\x22" ∧
      tokensOf (stringLiteral '\x22' (· = 0) "\n'\n\x22") =
        .ok [⟨.string, .text "\n'\n\x22", ⟨1, 1⟩⟩, ⟨.eof, .null, ⟨2, 4⟩⟩] ∧
      [⟨.identifier, .text "x", ⟨1, 1⟩⟩, ⟨.newline, .text "\n", ⟨1, 2⟩⟩,
        ⟨.string, .text "\n'\n\x22", ⟨2, 1⟩⟩] <+: (endState tokenize
          (ofSource ("x\n" ++ stringLiteral '\x22' (· = 0) "\n'\n\x22" ++ "'"))).tokens.toList := by
  obtain ⟨hread, hplaced⟩ := stringLiteral_read (q := '\x22') (.inl rfl) (· = 0) "\n'\n\x22"
  have hbefore :
      tokensOf "x\n" = .ok ([⟨.identifier, .text "x", ⟨1, 1⟩⟩, ⟨.newline, .text "\n", ⟨1, 2⟩⟩] ++
        [⟨.eof, .null, ⟨2, 1⟩⟩]) := rfl
  obtain ⟨t, u, -, -, -, -, -, -, hprefix⟩ := hplaced "x\n" "'" _ _ hbefore (.inr ⟨"x", rfl⟩)
  exact ⟨rfl, hread, hprefix⟩

end FloScript.Scanner
