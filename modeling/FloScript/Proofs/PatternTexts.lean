import FloScript.Proofs.Matching
import FloScript.Proofs.Routing

/-! What the reader makes of the texts of patterns that are made from paths. -/
namespace FloScript.Pattern

namespace Reader

variable {α β : Type} {s t : State} {x : Reader α} {f : α → Reader β} {a : α}
  {c d : Char} {cs : List Char} {inner : Inner} {flags : Flags} {ps : List Piece} {n : Nat}

theorem bind_ok (h : x s = .ok a t) : (x >>= f) s = f a t := by
  change EStateM.bind x f s = _
  simp only [EStateM.bind, h]

theorem get_eq (s : State) : (get : Reader State) s = .ok s s := rfl

theorem tell_eq (s : State) : tell s = .ok (s.whole.length - s.rest.length) s := rfl

section Characters

/-- The text does not end with a backslash, so that no escape is cut off. -/
def Uncut (cs : List Char) : Prop := cs.getLast? ≠ some '\\'

theorem Uncut.drop (h : Uncut cs) (n : Nat) : Uncut (cs.drop n) := by
  intro hlast
  rw [List.getLast?_drop] at hlast
  split at hlast
  · cases hlast
  · exact h hlast

theorem Uncut.tail (h : Uncut (c :: cs)) : Uncut cs := h.drop 1

theorem Uncut.ne (h : Uncut cs) : cs ≠ ['\\'] := by
  rintro rfl
  exact h rfl

theorem skip_eq (h : Uncut s.rest) (n : Nat) :
    skip n s = .ok () { s with rest := s.rest.drop n } := by
  change (if s.rest.drop n = ['\\'] then _ else _ : Reader Unit)
    { s with rest := s.rest.drop n } = _
  rw [if_neg (h.drop n).ne]
  rfl

theorem peek_eq (s : State) : peek s = .ok (first? s.rest) s := rfl

theorem first?_char (hc : c ≠ '\\') (cs : List Char) : first? (c :: cs) = some [c] := by
  unfold first?
  split
  · next h => cases h
  · next h => exact absurd (List.cons.inj h).1 hc
  · next _ h =>
    obtain ⟨rfl, -⟩ := List.cons.inj h
    rfl

theorem peek_char (h : s.rest = c :: cs) (hc : c ≠ '\\') : peek s = .ok (some [c]) s := by
  rw [peek_eq, h, first?_char hc]

theorem next_char (h : s.rest = c :: cs) (hc : c ≠ '\\') (hu : Uncut s.rest) :
    next s = .ok (some [c]) { s with rest := cs } := by
  have hskip := skip_eq hu 1
  rw [h] at hskip
  exact (bind_ok (peek_char h hc)).trans (bind_ok hskip)

theorem accept_char (h : s.rest = c :: cs) (hc : c ≠ '\\') (hu : Uncut s.rest) :
    accept c s = .ok true { s with rest := cs } := by
  refine (bind_ok (peek_char h hc)).trans ?_
  rw [if_pos rfl]
  exact bind_ok (next_char h hc hu)

theorem first?_ne (hc : c ≠ '\\') (h : cs.head? ≠ some c) : first? cs ≠ some [c] := by
  unfold first?
  split
  · exact fun hn => by cases hn
  · exact fun hn => by simp at hn
  · intro hn
    obtain rfl : _ = c := by simpa using hn
    exact h rfl

/-- A character is not accepted where another one stands, or none. -/
theorem accept_other (h : s.rest.head? ≠ some c) (hc : c ≠ '\\') : accept c s = .ok false s := by
  refine (bind_ok (peek_eq s)).trans ?_
  rw [if_neg (first?_ne hc h)]
  rfl

theorem takeAtMost_eq (p : Char → Bool) (n : Nat) (hu : Uncut s.rest) :
    takeAtMost p n s = .ok ((s.rest.take n).takeWhile p)
      { s with rest := s.rest.drop ((s.rest.take n).takeWhile p).length } :=
  bind_ok (skip_eq hu _)

end Characters

section Counts

/-- Whether a text that follows a brace goes on with the bounds of a repetition. -/
def startsCount (cs : List Char) : Bool :=
  match cs.dropWhile Char.isDigit with
  | '\x7d' :: _ => cs.head? != some '\x7d'
  | ',' :: high => (high.dropWhile Char.isDigit).head? == some '\x7d'
  | _ => false

theorem drop_length_takeWhile (p : Char → Bool) (cs : List Char) :
    cs.drop (cs.takeWhile p).length = cs.dropWhile p := by
  calc cs.drop (cs.takeWhile p).length
      = (cs.takeWhile p ++ cs.dropWhile p).drop (cs.takeWhile p).length := by
        rw [List.takeWhile_append_dropWhile]
    _ = cs.dropWhile p := List.drop_left

/-- All characters of a class that stand next, if enough of them are asked for. -/
theorem takeAtMost_all (p : Char → Bool) (hn : s.rest.length ≤ n) (hu : Uncut s.rest) :
    takeAtMost p n s = .ok (s.rest.takeWhile p) { s with rest := s.rest.dropWhile p } := by
  rw [takeAtMost_eq p n hu, List.take_of_length_le hn, drop_length_takeWhile]

/-- A brace that no bounds follow is read as no repetition. -/
theorem bounds_none (h : startsCount s.rest = false) (hu : Uncut s.rest) :
    bounds s = .ok none s := by
  unfold bounds
  refine (bind_ok (get_eq s)).trans ((bind_ok (tell_eq s)).trans ?_)
  by_cases hclosed : s.rest.head? = some '\x7d'
  · rw [if_pos hclosed]
    rfl
  · rw [if_neg hclosed]
    refine (bind_ok (takeAtMost_all Char.isDigit (Nat.le_refl _) hu)).trans ?_
    have hu' : Uncut (s.rest.dropWhile Char.isDigit) :=
      drop_length_takeWhile Char.isDigit s.rest ▸ hu.drop _
    unfold startsCount at h
    split at h
    · exact absurd (by simpa using h) hclosed
    · next high hcomma =>
      refine (bind_ok (accept_char hcomma (by decide) hu')).trans ?_
      have hlength : high.length ≤ s.rest.length := by
        have hle := (List.dropWhile_suffix Char.isDigit (l := s.rest)).length_le
        rw [hcomma] at hle
        exact Nat.le_of_succ_le hle
      have huhigh : Uncut high := by
        rw [hcomma] at hu'
        exact hu'.tail
      rw [if_pos rfl]
      refine (bind_ok (takeAtMost_all Char.isDigit hlength huhigh)).trans ?_
      refine (bind_ok (accept_other (by simpa using h) (by decide))).trans ?_
      rfl
    · next hbrace hcomma =>
      have hno : ∀ d, d = ',' ∨ d = '\x7d' → (s.rest.dropWhile Char.isDigit).head? ≠ some d := by
        intro d hd hhead
        obtain ⟨ds, hds⟩ := List.head?_eq_some_iff.mp hhead
        rcases hd with rfl | rfl
        · exact hcomma ds hds
        · exact hbrace ds hds
      refine (bind_ok (accept_other (hno ',' (.inl rfl)) (by decide))).trans ?_
      refine (bind_ok (accept_other (hno '\x7d' (.inr rfl)) (by decide))).trans ?_
      rfl

end Counts

section Pieces

/-- The characters that have a meaning in a pattern wherever they stand. A brace has one only before
bounds. -/
def special : List Char := ['\\', '.', '^', '$', '*', '+', '?', '[', '(', ')', '|']

theorem piece_char (hc : c ∉ '\x7b' :: special) (s : State) :
    piece inner flags ps [c] s = .ok (.plain (single flags (.code c.toNat)) :: ps) s := by
  have hpiece :
      piece inner flags ps [c] = tell >>= fun _ =>
        pure (.plain (single flags (.code c.toNat)) :: ps) := by
    unfold piece
    congr 1
    funext k
    dsimp only
    split
    case h_10 => rfl
    all_goals exact absurd (by simp [special]) hc
  rw [hpiece]
  rfl

theorem piece_brace (h : startsCount s.rest = false) (hu : Uncut s.rest) :
    piece inner flags ps ['\x7b'] s = .ok (.plain (single flags (.code ('\x7b').toNat)) :: ps) s :=
  (bind_ok (tell_eq s)).trans (bind_ok (bounds_none h hu))

/-- A step of a sequence over a character that begins no alternative and ends no group. -/
theorem sequence_step (h : s.rest = c :: cs) (hc : c ∉ ['\\', '|', ')']) (hu : Uncut s.rest) :
    sequence inner .plain (n + 1) ps s =
      (piece inner .plain ps [c] >>= fun ps => sequence inner .plain n ps)
      { s with rest := cs } := by
  simp only [List.mem_cons, List.not_mem_nil, or_false, not_or] at hc
  obtain ⟨hslash, hbar, hclose⟩ := hc
  rw [sequence]
  refine (bind_ok (peek_char h hslash)).trans ?_
  simp only [List.cons.injEq, hbar, hclose, and_true, imp_self]
  refine (bind_ok (next_char h hslash hu)).trans ?_
  rfl

theorem sequence_end (h : first? s.rest = none ∨ first? s.rest = some [')']) :
    sequence inner flags (n + 1) ps s = .ok (joined ps) s := by
  rw [sequence]
  refine (bind_ok (peek_eq s)).trans ?_
  rcases h with h | h
  · rw [h]
    rfl
  · rw [h]
    rfl

/-- A text without alternatives is read as one sequence. -/
theorem level_sequence {k : Nat} {qs : List Pattern}
    (h : sequence (level k) flags (s.rest.length + 1) [] s = .ok qs t)
    (hbar : t.rest.head? ≠ some '|') : level (k + 1) true flags s = .ok qs t := by
  have hbranches : branches (level k) flags (s.rest.length + 1) s = .ok [qs] t :=
    (bind_ok (get_eq s)).trans ((bind_ok h).trans (bind_ok (accept_other hbar (by decide))))
  exact (bind_ok (get_eq s)).trans (bind_ok hbranches)

end Pieces

section Parameters

variable {name tail : List Char} {missing : Problem} {d : Nat}

/-- What a parameter matches: anything up to the next slash. -/
def segment : Pattern := times (one ⟨true, [.code ('/').toNat], .none⟩) 1 none .greedy

theorem nameUntil_eq (hname : ∀ c ∈ name, c ∉ ['\\', '>']) (hn : name.length < n) (acc : List Char)
    (hacc : acc ++ name ≠ []) (hrest : s.rest = name ++ '>' :: tail) (hu : Uncut s.rest) :
    nameUntil '>' missing n acc s = .ok (acc ++ name) { s with rest := tail } := by
  induction name generalizing n acc s with
  | nil =>
    obtain ⟨n, rfl⟩ := Nat.exists_eq_succ_of_ne_zero (Nat.ne_zero_of_lt hn)
    rw [List.append_nil] at hacc ⊢
    refine (bind_ok (next_char hrest (by decide) hu)).trans ?_
    have hempty : acc.isEmpty = false := by simpa using hacc
    simp only [hempty]
    rfl
  | cons c name ih =>
    obtain ⟨n, rfl⟩ := Nat.exists_eq_succ_of_ne_zero (Nat.ne_zero_of_lt hn)
    have hc := hname c (by simp)
    simp only [List.mem_cons, List.not_mem_nil, or_false, not_or] at hc
    refine (bind_ok (next_char hrest hc.1 hu)).trans ?_
    have hne : ([c] : List Char) ≠ ['>'] := by simpa using hc.2
    simp only [if_neg hne]
    rw [hrest] at hu
    have hrec :=
      ih (n := n) (fun c' hc' => hname c' (by simp [hc']))
        (by simpa using hn) (acc ++ [c]) (by simp)
      (s := { s with rest := name ++ '>' :: tail }) rfl hu.tail
    simpa using hrec

theorem charSet_segment (hrest : s.rest = '^' :: '/' :: ']' :: tail) (hu : Uncut s.rest) :
    charSet .plain s = .ok (one ⟨true, [.code ('/').toNat], .none⟩) { s with rest := tail } := by
  have hu₁ : Uncut ('/' :: ']' :: tail) := by
    rw [hrest] at hu
    exact hu.tail
  unfold charSet
  refine (bind_ok (tell_eq s)).trans ((bind_ok (accept_char hrest (by decide) hu)).trans ?_)
  refine (bind_ok (get_eq _)).trans ?_
  have hitems : setItems .plain (s.whole.length - s.rest.length - 1) (tail.length + 3) []
      { s with rest := '/' :: ']' :: tail } = .ok [.code ('/').toNat] { s with rest := tail } := by
    refine (bind_ok (next_char rfl (by decide) hu₁)).trans ?_
    have hitem : setItem .plain ['/'] { s with rest := ']' :: tail } =
        .ok (.code ('/').toNat) { s with rest := ']' :: tail } := rfl
    refine (bind_ok hitem).trans ?_
    refine (bind_ok (accept_other (by simp) (by decide))).trans ?_
    exact bind_ok (next_char (c := ']') rfl (by decide) hu₁.tail)
  exact (bind_ok hitems).trans rfl

theorem greed_greedy (hrest : s.rest = ')' :: tail) : greed s = .ok .greedy s := by
  unfold greed
  refine (bind_ok (accept_other (by simp [hrest]) (by decide))).trans ?_
  exact bind_ok (accept_other (by simp [hrest]) (by decide))

theorem sequence_segment (hrest : s.rest = '[' :: '^' :: '/' :: ']' :: '+' :: ')' :: tail)
    (hu : Uncut s.rest) :
    sequence inner .plain (n + 3) [] s = .ok [segment] { s with rest := ')' :: tail } := by
  have hu₁ : Uncut ('^' :: '/' :: ']' :: '+' :: ')' :: tail) := by
    rw [hrest] at hu
    exact hu.tail
  have hset :
      piece inner .plain [] ['['] { s with rest := '^' :: '/' :: ']' :: '+' :: ')' :: tail } =
      .ok [.plain (one ⟨true, [.code ('/').toNat], .none⟩)] { s with rest := '+' :: ')' :: tail } :=
    (bind_ok (tell_eq _)).trans (bind_ok (charSet_segment rfl hu₁))
  have hmany : piece inner .plain [.plain (one ⟨true, [.code ('/').toNat], .none⟩)] ['+']
      { s with rest := ')' :: tail } = .ok [.repeated segment] { s with rest := ')' :: tail } :=
    (bind_ok (tell_eq _)).trans (bind_ok (greed_greedy rfl))
  rw [sequence_step hrest (by decide) hu, bind_ok hset]
  rw [sequence_step rfl (by decide) (hu₁.drop 3), bind_ok hmany]
  exact sequence_end (.inr (first?_char (by decide) tail))

theorem level_segment (hrest : s.rest = '[' :: '^' :: '/' :: ']' :: '+' :: ')' :: tail)
    (hu : Uncut s.rest) :
    level (d + 1) true .plain s = .ok [segment] { s with rest := ')' :: tail } := by
  refine level_sequence ?_ (by simp)
  have hlength : s.rest.length + 1 = (tail.length + 4) + 3 := by simp [hrest]
  rw [hlength]
  exact sequence_segment hrest hu

theorem groupName_eq (hname : Text.isName (String.ofList name) = true)
    (hword : ∀ c ∈ name, c ∉ ['\\', '>'])
    (hrest : s.rest = name ++ '>' :: tail) (hu : Uncut s.rest) :
    groupName '>' s = .ok (String.ofList name) { s with rest := tail } := by
  have hne : [] ++ name ≠ [] := by
    rintro rfl
    simp [Text.isName] at hname
  have hraw : rawName '>' s = .ok (String.ofList name) { s with rest := tail } :=
    (bind_ok (get_eq s)).trans
      (bind_ok
        (nameUntil_eq hword (by rw [hrest, List.length_append, List.length_cons]; omega)
          [] hne hrest hu))
  refine (bind_ok hraw).trans ?_
  rw [if_pos hname]
  rfl

theorem openGroup_eq {x : String} (hnew : s.names.lookup x = none) :
    openGroup (some x) s = .ok s.groups
      { s with groups := s.groups + 1, names := s.names ++ [(x, s.groups)] } := by
  simp only [openGroup]
  refine (bind_ok (get_eq s)).trans ?_
  rw [hnew]
  rfl

theorem capturing_eq {x : String} {start : Nat} (hnew : s.names.lookup x = none)
    (hrest : s.rest = '[' :: '^' :: '/' :: ']' :: '+' :: ')' :: tail) (hu : Uncut s.rest) :
    capturing (level (d + 1)) .plain start (some x) s =
      .ok (.plain (group s.groups (inOrder [segment])))
      { s with rest := tail, groups := s.groups + 1, names := s.names ++ [(x, s.groups)],
               widths := (s.groups, (inOrder [segment]).width s.widths) :: s.widths } := by
  have hclosed : Uncut (')' :: tail) := by
    rw [hrest] at hu
    exact hu.drop 5
  have hclose : close start
        { s with
          rest := ')' :: tail, groups := s.groups + 1, names := s.names ++ [(x, s.groups)] } =
      .ok () { s with rest := tail, groups := s.groups + 1, names := s.names ++ [(x, s.groups)] } :=
    bind_ok (accept_char (c := ')') rfl (by decide) hclosed)
  refine (bind_ok (openGroup_eq hnew)).trans ?_
  refine (bind_ok
    (level_segment (s := { s with groups := s.groups + 1, names := s.names ++ [(x, s.groups)] })
      hrest hu)).trans ?_
  exact (bind_ok hclose).trans rfl

/-- The piece that a parameter is. -/
theorem piece_parameter (hname : Text.isName (String.ofList name) = true)
    (hword : ∀ c ∈ name, c ∉ ['\\', '>']) (hnew : s.names.lookup (String.ofList name) = none)
    (hrest : '(' :: s.rest = Route.parameter name ++ tail) (hu : Uncut s.rest) :
    piece (level (d + 1)) .plain ps ['('] s =
      .ok (.plain (group s.groups (inOrder [segment])) :: ps)
        { s with
          rest := tail, groups := s.groups + 1,
          names := s.names ++ [(String.ofList name, s.groups)],
          widths := (s.groups, (inOrder [segment]).width s.widths) :: s.widths } := by
  have htext : Route.parameter name ++ tail =
      '(' :: '?' :: 'P' :: '<' ::
        (name ++ '>' :: '[' :: '^' :: '/' :: ']' :: '+' :: ')' :: tail) := by
    simp [Route.parameter]
  rw [htext] at hrest
  have hs :
      s.rest = '?' :: 'P' :: '<' ::
        (name ++ '>' :: '[' :: '^' :: '/' :: ']' :: '+' :: ')' :: tail) :=
    (List.cons.inj hrest).2
  rw [hs] at hu
  have hu₃ : Uncut (name ++ '>' :: '[' :: '^' :: '/' :: ']' :: '+' :: ')' :: tail) := hu.drop 3
  have hu₄ : Uncut ('[' :: '^' :: '/' :: ']' :: '+' :: ')' :: tail) := by
    have hdrop := hu₃.drop (name.length + 1)
    simpa using hdrop
  refine (bind_ok (tell_eq s)).trans ((bind_ok (accept_char hs (by decide) (hs ▸ hu))).trans ?_)
  have hnamed : named (level (d + 1)) .plain (s.whole.length - s.rest.length - 1)
      { s with rest := '<' :: (name ++ '>' :: '[' :: '^' :: '/' :: ']' :: '+' :: ')' :: tail) } =
        .ok (.plain (group s.groups (inOrder [segment])))
          { s with
            rest := tail, groups := s.groups + 1,
            names := s.names ++ [(String.ofList name, s.groups)],
            widths := (s.groups, (inOrder [segment]).width s.widths) :: s.widths } := by
    refine (bind_ok (accept_char (c := '<') rfl (by decide) (hu.drop 2))).trans ?_
    refine (bind_ok (groupName_eq hname hword rfl hu₃)).trans ?_
    exact capturing_eq hnew rfl hu₄
  have hextended : extended (level (d + 1)) .plain (s.whole.length - s.rest.length - 1)
      { s with
        rest := 'P' :: '<' :: (name ++ '>' :: '[' :: '^' :: '/' :: ']' :: '+' :: ')' :: tail) } =
        .ok (some (.plain (group s.groups (inOrder [segment]))))
          { s with
            rest := tail, groups := s.groups + 1,
            names := s.names ++ [(String.ofList name, s.groups)],
            widths := (s.groups, (inOrder [segment]).width s.widths) :: s.widths } :=
    (bind_ok (next_char (c := 'P') rfl (by decide) hu.tail)).trans (bind_ok hnamed)
  exact (bind_ok hextended).trans rfl

end Parameters

end Reader

/-- A part of the text of a pattern that is made from a path. -/
inductive Part where
  | start
  | stop
  | any
  | char (c : Char)
  | parameter (name : List Char)

namespace Part

open Reader

variable {s : State} {ps : List Reader.Piece} {p : Part} {parts : List Part}
  {n d : Nat} {tail : List Char}

def text : Part → List Char
  | start => ['^']
  | stop => ['$']
  | any => ['.']
  | char c => [c]
  | parameter name => Route.parameter name

def texts (parts : List Part) : List Char := parts.flatMap text

theorem texts_chars (cs : List Char) : texts (cs.map char) = cs := by
  simp [texts, List.flatMap_map, text]

/-- The name that a part gives to a group. -/
def name? : Part → Option String
  | parameter name => some (String.ofList name)
  | _ => none

/-- What is read for a part; `n` is the number of its group, if it has one. -/
def piece (n : Nat) : Part → Reader.Piece
  | start => .place (anchor .textStart)
  | stop => .place (anchor .finalEnd)
  | any => .plain (one ⟨true, [.code 10], .none⟩)
  | char c => .plain (single .plain (.code c.toNat))
  | parameter _ => .plain (group n (inOrder [segment]))

/-- The patterns of parts whose groups are numbered from `n` on. -/
def patterns : Nat → List Part → List Pattern
  | _, [] => []
  | n, p :: parts => (p.piece n).patterns ++ patterns (n + p.name?.toList.length) parts

/-- The names of parts with the numbers of their groups, which begin with `n`. -/
def names : Nat → List Part → List (String × Nat)
  | _, [] => []
  | n, p :: parts => p.name?.toList.map (·, n) ++ names (n + p.name?.toList.length) parts

/-- A character stands for itself before the given text, and a parameter has a name that is not
known yet. -/
def Fits (known : List String) (after : List Char) : Part → Prop
  | char c => c ∉ special ∧ (c = '\x7b' → startsCount after = false)
  | parameter name => Text.isName (String.ofList name) = true ∧ String.ofList name ∉ known
  | _ => True

def Readable : List String → List Part → Prop
  | _, [] => True
  | known, p :: parts => p.Fits known (texts parts) ∧ Readable (known ++ p.name?.toList) parts

theorem names_chars (n : Nat) (cs : List Char) (parts : List Part) :
    names n (cs.map char ++ parts) = names n parts := by
  induction cs with
  | nil => rfl
  | cons c cs ih => exact ih

theorem readable_chars {known : List String} {cs : List Char} (h : ∀ c ∈ cs, c ∉ '\x7b' :: special)
    (hparts : Readable known parts) : Readable known (cs.map char ++ parts) := by
  induction cs with
  | nil => exact hparts
  | cons c cs ih =>
    obtain ⟨hc, hcs⟩ := List.forall_mem_cons.mp h
    obtain ⟨hbrace, hspecial⟩ := not_or.mp fun h => hc (List.mem_cons.mpr h)
    refine ⟨⟨hspecial, fun h => absurd h hbrace⟩, ?_⟩
    rw [show (char c).name?.toList = [] from rfl, List.append_nil]
    exact ih hcs

theorem ne_of_isName {name : List Char} (h : Text.isName (String.ofList name) = true) :
    ∀ c ∈ name, c ∉ ['\\', '>'] := by
  have hname : ∀ c ∈ name, Text.isNameStart c = true ∨ Text.isNameChar c = true := by
    rw [Text.isName, String.toList_ofList] at h
    cases name with
    | nil => cases h
    | cons c cs =>
      obtain ⟨hc, hcs⟩ := Bool.and_eq_true_iff.mp h
      exact List.forall_mem_cons.mpr ⟨.inl hc, fun c' hc' => .inr (List.all_eq_true.mp hcs c' hc')⟩
  intro c hc hmem
  rcases List.mem_cons.mp hmem with rfl | hmem
  · rcases hname _ hc with h | h <;> cases h
  · obtain rfl := List.mem_singleton.mp hmem
    rcases hname _ hc with h | h <;> cases h

/-- A step of a sequence over a part. -/
theorem sequence_part (ps : List Reader.Piece) (hp : p.Fits (s.names.map Prod.fst) tail)
    (hrest : s.rest = p.text ++ tail) (hu : Uncut s.rest) :
    ∃ ws, Reader.sequence (level (d + 1)) .plain (n + 1) ps s =
      Reader.sequence (level (d + 1)) .plain n (p.piece s.groups :: ps)
      { s with rest := tail, groups := s.groups + p.name?.toList.length,
               names := s.names ++ p.name?.toList.map (·, s.groups), widths := ws } := by
  cases p with
  | start | stop | any =>
    refine ⟨s.widths, ?_⟩
    rw [sequence_step hrest (by decide) hu]
    simp only [name?, Option.toList_none, List.map_nil, List.append_nil]
    rfl
  | char c =>
    refine ⟨s.widths, ?_⟩
    have hc : c ∉ ['\\', '|', ')'] := by
      simp only [List.mem_cons, List.not_mem_nil, or_false]
      rintro (rfl | rfl | rfl) <;> exact hp.1 (by decide)
    have htail : Uncut tail := by
      rw [hrest] at hu
      exact hu.tail
    rw [sequence_step hrest hc hu]
    simp only [name?, Option.toList_none, List.map_nil, List.append_nil]
    by_cases hbrace : c = '\x7b'
    · subst hbrace
      exact bind_ok (piece_brace (hp.2 rfl) htail)
    · exact bind_ok (piece_char (by simpa [hbrace] using hp.1) _)
  | parameter name =>
    have hopen : Route.parameter name ++ tail = '(' :: (Route.parameter name ++ tail).tail := by
      simp [Route.parameter]
    have hs : s.rest = '(' :: (Route.parameter name ++ tail).tail := hrest.trans hopen
    have htail : Uncut (Route.parameter name ++ tail).tail := by
      rw [hs] at hu
      exact hu.tail
    have hnew : s.names.lookup (String.ofList name) = none := by
      refine List.lookup_eq_none_iff.mpr fun e he => ?_
      have hne : String.ofList name ≠ e.1 := fun heq => hp.2 (heq ▸ List.mem_map_of_mem he)
      simpa using hne
    refine ⟨(s.groups, (inOrder [segment]).width s.widths) :: s.widths, ?_⟩
    rw [sequence_step hs (by decide) hu]
    exact bind_ok
      (piece_parameter (s := { s with rest := (Route.parameter name ++ tail).tail }) hp.1
        (ne_of_isName hp.1) hnew hopen.symm htail)

theorem joined_cons (q : Reader.Piece) (ps : List Reader.Piece) :
    joined (q :: ps) = joined ps ++ q.patterns := by
  simp [joined]

/-- Parts are read one by one to the end of the text. -/
theorem sequence_parts (ps : List Reader.Piece) (hp : Readable (s.names.map Prod.fst) parts)
    (hrest : s.rest = texts parts) (hu : Uncut s.rest) (hn : parts.length < n) :
    ∃ groups ws, Reader.sequence (level (d + 1)) .plain n ps s =
      .ok (joined ps ++ patterns s.groups parts)
      { s with
        rest := [], groups := groups, names := s.names ++ names s.groups parts, widths := ws } := by
  induction parts generalizing s ps n with
  | nil =>
    obtain ⟨n, rfl⟩ := Nat.exists_eq_succ_of_ne_zero (Nat.ne_zero_of_lt hn)
    have hnil : s.rest = [] := hrest
    refine ⟨s.groups, s.widths, ?_⟩
    rw [sequence_end (.inl (by rw [hnil]; rfl))]
    simp [patterns, names, ← hnil]
  | cons p parts ih =>
    obtain ⟨n, rfl⟩ := Nat.exists_eq_succ_of_ne_zero (Nat.ne_zero_of_lt hn)
    obtain ⟨hfit, hparts⟩ := hp
    have hcons : s.rest = p.text ++ texts parts := hrest
    obtain ⟨ws, hstep⟩ := sequence_part (d := d) (n := n) ps hfit hcons hu
    rw [Nat.succ_eq_add_one, hstep]
    have hu' : Uncut (texts parts) := by
      rw [hcons] at hu
      simpa using hu.drop p.text.length
    have hknown : (s.names ++ p.name?.toList.map (·, s.groups)).map Prod.fst =
        s.names.map Prod.fst ++ p.name?.toList := by
      simp [Function.comp_def]
    obtain ⟨groups, ws', hrun⟩ := ih (n := n) (p.piece s.groups :: ps)
      (s := { s with rest := texts parts, groups := s.groups + p.name?.toList.length,
                     names := s.names ++ p.name?.toList.map (·, s.groups), widths := ws })
      (by rw [hknown]; exact hparts) rfl hu' (by simpa using hn)
    refine ⟨groups, ws', hrun.trans ?_⟩
    simp [joined_cons, patterns, names]

theorem length_le_texts (parts : List Part) : parts.length ≤ (texts parts).length := by
  induction parts with
  | nil => exact Nat.le_refl _
  | cons p parts ih =>
    have hp : 1 ≤ p.text.length := by
      cases p with
      | parameter name => simp [text, Route.parameter]
      | _ => exact Nat.le_refl _
    simp only [texts, List.flatMap_cons, List.length_append, List.length_cons] at ih ⊢
    omega

/-- The pattern that the text of some parts is. -/
theorem read_texts (hp : Readable [] parts) (hu : Uncut (texts parts)) (hne : parts ≠ []) :
    Pattern.read (String.ofList (texts parts)) =
      .ok ⟨inOrder (patterns 1 parts), names 1 parts⟩ := by
  have hlength := length_le_texts parts
  obtain ⟨d, hd⟩ : ∃ d, (texts parts).length = d + 1 :=
    Nat.exists_eq_succ_of_ne_zero fun h => hne (List.eq_nil_of_length_eq_zero (by omega))
  obtain ⟨groups, ws, hsequence⟩ := sequence_parts (d := d) []
    (s := ⟨texts parts, texts parts, 1, [], [], none, [], false⟩) hp rfl hu
    (Nat.lt_succ_of_le hlength)
  have hlevel :
      level ((texts parts).length + 1) true .plain
          ⟨texts parts, texts parts, 1, [], [], none, [], false⟩ =
        .ok (patterns 1 parts) ⟨texts parts, [], groups, names 1 parts, ws, none, [], false⟩ := by
    rw [hd]
    exact level_sequence hsequence (by simp)
  have hfull : Reader.full ⟨texts parts, texts parts, 1, [], [], none, [], false⟩ =
      .ok (inOrder (patterns 1 parts))
        ⟨texts parts, [], groups, names 1 parts, ws, none, [], false⟩ := by
    refine (bind_ok (skip_eq hu 0)).trans ((bind_ok (get_eq _)).trans ?_)
    exact (bind_ok hlevel).trans rfl
  rw [Pattern.read, String.toList_ofList, hfull]

section Spans

variable {before u rest cs : List Char} {caps : List (Nat × List Char)} {c : Char}

theorem contains_code (c d : Char) :
    CharSet.contains ⟨false, [.code c.toNat], .none⟩ d = true ↔ d = c := by
  simp [CharSet.contains, Fold.forms, Char.toNat_inj]

theorem contains_not_code (c d : Char) :
    CharSet.contains ⟨true, [.code c.toNat], .none⟩ d = true ↔ d ≠ c := by
  simp [CharSet.contains, Fold.forms, Char.toNat_inj]

theorem simple_patterns (n : Nat) (parts : List Part) : ∀ q ∈ patterns n parts, Simple q := by
  induction parts generalizing n with
  | nil => simp [patterns]
  | cons p parts ih =>
    have hp : ∀ q ∈ (p.piece n).patterns, Simple q := by
      cases p with
      | parameter name =>
        intro q hq
        obtain rfl := List.mem_singleton.mp hq
        exact ⟨⟨⟨_, rfl⟩, by simp⟩, trivial⟩
      | _ =>
        intro q hq
        obtain rfl := List.mem_singleton.mp hq
        trivial
    intro q hq
    exact (List.mem_append.mp hq).elim (hp q) (ih _ q)

theorem spans_char (c : Char) (h : Spans (inOrder (patterns n parts)) (c :: before) u rest caps) :
    Spans (inOrder (patterns n (char c :: parts))) before (c :: u) rest caps :=
  ⟨[c], u, [], caps, rfl, by simp, ⟨⟨c, rfl, (contains_code c c).mpr rfl⟩, rfl⟩, h⟩

/-- Characters span themselves. -/
theorem spans_chars : Spans (inOrder (patterns n (cs.map char ++ parts))) before u rest caps ↔
    ∃ w, u = cs ++ w ∧ Spans (inOrder (patterns n parts)) (cs.reverse ++ before) w rest caps := by
  induction cs generalizing before u caps with
  | nil => simp
  | cons c cs ih =>
    change Spans
      (inOrder (one ⟨false, [.code c.toNat], .none⟩ :: patterns n (cs.map char ++ parts)))
      _ _ _ _ ↔ _
    rw [spans_cons]
    constructor
    · rintro ⟨v, w, vs, ws, rfl, rfl, ⟨⟨d, rfl, hd⟩, rfl⟩, hw⟩
      obtain rfl := (contains_code c d).mp hd
      rw [List.append_nil]
      obtain ⟨w, rfl, hparts⟩ := ih.mp hw
      exact ⟨w, rfl, by simpa using hparts⟩
    · rintro ⟨w, rfl, hw⟩
      exact spans_char c (ih.mpr ⟨w, rfl, by simpa using hw⟩)

/-- Any character but a line end is spanned by a dot. -/
theorem spans_any (hc : c ≠ '\n')
    (h : Spans (inOrder (patterns n parts)) (c :: before) u rest caps) :
    Spans (inOrder (patterns n (any :: parts))) before (c :: u) rest caps :=
  ⟨[c], u, [], caps, rfl, by simp, ⟨⟨c, rfl, (contains_not_code '\n' c).mpr hc⟩, rfl⟩, h⟩

/-- The end stands at the end of the text or before a last line end. -/
theorem spans_stop : Spans (inOrder (patterns n [stop])) before u rest caps ↔
    u = [] ∧ caps = [] ∧ (rest = [] ∨ rest = ['\n']) := by
  constructor
  · rintro ⟨v, w, vs, ws, rfl, rfl, ⟨rfl, h, rfl⟩, rfl, rfl⟩
    exact ⟨rfl, rfl, by simpa [Place.satisfies] using h⟩
  · rintro ⟨rfl, rfl, h⟩
    exact ⟨[], [], [], [], rfl, rfl, ⟨rfl, by simpa [Place.satisfies] using h, rfl⟩, rfl, rfl⟩

theorem spans_start : Spans (inOrder (patterns n (start :: parts))) [] u rest caps ↔
    Spans (inOrder (patterns n parts)) [] u rest caps := by
  change Spans (inOrder (anchor .textStart :: patterns n parts)) _ _ _ _ ↔ _
  constructor
  · rintro ⟨v, w, vs, ws, rfl, rfl, ⟨rfl, -, rfl⟩, h⟩
    rwa [List.append_nil]
  · exact fun h => ⟨[], u, [], caps, rfl, by simp, ⟨rfl, rfl, rfl⟩, h⟩

/-- A parameter spans a text without slashes and records it. -/
theorem spans_parameter {name : List Char} :
    Spans (inOrder (patterns n (parameter name :: parts))) before u rest caps ↔
      ∃ v w ws, u = v ++ w ∧ caps = ws ++ [(n, v)] ∧ v ≠ [] ∧ '/' ∉ v ∧
        Spans (inOrder (patterns (n + 1) parts)) (v.reverse ++ before) w rest ws := by
  change Spans (inOrder (group n (inOrder [segment]) :: patterns (n + 1) parts)) _ _ _ _ ↔ _
  rw [spans_cons]
  constructor
  · rintro ⟨_, w, _, ws, rfl, rfl, ⟨_, rfl, ⟨v, _, _, _, rfl, rfl, ⟨set, heq, hv, rfl⟩, rfl, rfl⟩⟩,
      hw⟩
    obtain rfl := Pattern.one.inj heq
    rw [List.append_nil] at hw ⊢
    refine ⟨v, w, ws, rfl, rfl, ?_, ?_, hw⟩
    · rintro rfl
      exact absurd hv.enough (by decide)
    · exact fun hslash => (contains_not_code _ _).mp (hv.contains _ hslash) rfl
  · rintro ⟨v, w, ws, rfl, rfl, hne, hslash, hw⟩
    refine ⟨v, w, [(n, v)], ws, rfl, rfl,
      ⟨[], rfl, v, [], [], [], by simp, rfl, ⟨_, rfl, ?_, rfl⟩, rfl, rfl⟩, hw⟩
    refine ⟨fun c hc => (contains_not_code _ _).mpr fun h => hslash (h ▸ hc), ?_, by simp, by simp⟩
    rw [Nat.zero_add]
    exact List.length_pos_iff.mpr hne

end Spans

end Part

end FloScript.Pattern

/-- Where no colon stands, a template is its own pattern. -/
theorem FloScript.Route.expand_literal {cs : List Char} (h : ':' ∉ cs) (rest : List Char) :
    expand none (cs ++ rest) = cs ++ expand none rest := by
  induction cs with
  | nil => rfl
  | cons c cs ih =>
    obtain ⟨hc, hcs⟩ := not_or.mp fun hmem => h (List.mem_cons.mpr hmem)
    rw [List.cons_append, expand, if_neg (Ne.symm hc), ih hcs, List.cons_append]
