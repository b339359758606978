import Mathlib.Data.List.Forall2
import FloScript.Proofs.Matching
import FloScript.Proofs.PatternTexts

/-! Path templates are matched segment by segment. -/
namespace FloScript.Route

open Pattern

/-- A segment of a path template. -/
inductive Segment where
  | literal (text : String)
  | parameter (name : String)
  deriving DecidableEq

namespace Segment

def text : Segment → String
  | literal text => text
  | parameter name => ":" ++ name

def name? : Segment → Option String
  | literal _ => none
  | parameter name => some name

/-- A literal is made of letters, digits, underscores and hyphens; a parameter is named by an
identifier. -/
def WellFormed : Segment → Prop
  | literal text => text ≠ "" ∧ ∀ c ∈ text.toList, c.isAlphanum = true ∨ c = '_' ∨ c = '-'
  | parameter name => Text.isName name = true ∧ ∀ c ∈ name.toList, Text.isAscii c = true

instance : DecidablePred WellFormed
  | literal text => @instDecidableAnd _ _ _ (List.decidableBAll _ text.toList)
  | parameter name => @instDecidableAnd _ _ _ (List.decidableBAll _ name.toList)

/-- What a segment of a path may be at the place of a segment of a template. -/
def Takes : Segment → String → Prop
  | literal text, t => t = text
  | parameter _, t => t ≠ "" ∧ '/' ∉ t.toList

/-- The parts of the pattern of a segment. -/
def parts : Segment → List Part
  | literal text => .char '/' :: text.toList.map .char
  | parameter name => [.char '/', .parameter name.toList]

end Segment

/-- A text for every segment, with a slash before each. -/
def slashed : List String → String
  | [] => ""
  | t :: ts => "/" ++ t ++ slashed ts

/-- A path template: well-formed segments whose parameters have different names. -/
structure Template where
  segments : List Segment
  nonempty : segments ≠ []
  wellFormed : ∀ g ∈ segments, g.WellFormed
  distinct : (segments.filterMap Segment.name?).Nodup

def Template.text (t : Template) : String := slashed (t.segments.map Segment.text)

/-- The parameters of some segments with the texts at their places. -/
def parametersOf (gs : List Segment) (ts : List String) : Parameters :=
  (gs.zip ts).filterMap fun (g, t) => g.name?.map (·, some t)

section Expansion

variable {cs word rest : List Char} {name : String} {g : Segment}
  {gs : List Segment} {ts : List String}

theorem expand_word (h : ∀ c ∈ cs, Text.isWordChar c = true) (word rest : List Char) :
    expand (some word) (cs ++ rest) = expand (some (word ++ cs)) rest := by
  induction cs generalizing word with
  | nil => simp
  | cons c cs ih =>
    rw [List.cons_append, expand, if_pos (h c (by simp)), ih fun d hd => h d (by simp [hd])]
    simp

/-- A word ends at a slash and at the end of a template. -/
theorem expand_ended (hword : word ≠ []) (hrest : rest.head? = none ∨ rest.head? = some '/') :
    expand (some word) rest = parameter word ++ expand none rest := by
  have hended : ∀ more, expand.ended word more = parameter word ++ more := fun more => by
    rw [expand.ended, if_neg (by simpa using hword)]
  cases rest with
  | nil => exact hended []
  | cons c rest =>
    obtain rfl : c = '/' := by simpa using hrest
    have hslash :
        expand (some word) ('/' :: rest) = expand.ended word ('/' :: expand none rest) := by
      rw [expand, if_neg (by decide), if_neg (by decide)]
    rw [hslash, hended]
    rfl

theorem isWordChar_of_isName (h : Text.isName name = true)
    (hascii : ∀ c ∈ name.toList, Text.isAscii c = true) :
    ∀ c ∈ name.toList, Text.isWordChar c = true := by
  intro c hc
  have hc' := hascii c hc
  have hname : c.isAlphanum = true ∨ c = '_' := by
    rw [Text.isName] at h
    cases hcs : name.toList with
    | nil => simp [hcs] at hc
    | cons d ds =>
      rw [hcs] at h hc
      obtain ⟨hd, hds⟩ := Bool.and_eq_true_iff.mp h
      rcases List.mem_cons.mp hc with rfl | hc
      · rw [Text.isNameStart, if_pos hc'] at hd
        have hstart : c.isAlpha = true ∨ c = '_' := by simpa using hd
        exact hstart.imp_left fun halpha => by simp [Char.isAlphanum, halpha]
      · have hd := List.all_eq_true.mp hds c hc
        rw [Text.isNameChar, if_pos hc'] at hd
        simpa using hd
  simpa [Text.isWordChar, Text.isAlphanumeric, Text.isLetter, Text.isNumeral, hc', Char.isAlphanum]
    using hname

theorem head?_slashed (ts : List String) :
    (slashed ts).toList.head? = none ∨ (slashed ts).toList.head? = some '/' := by
  cases ts with
  | nil => exact .inl rfl
  | cons t ts => exact .inr (by simp [slashed])

theorem colon_notMem_of_literal {text : String} (h : (Segment.literal text).WellFormed) :
    ':' ∉ '/' :: text.toList := by
  simp only [List.mem_cons, not_or]
  refine ⟨by decide, fun hc => ?_⟩
  rcases h.2 _ hc with h | h | h <;> cases h

theorem expand_segments (h : ∀ g ∈ gs, g.WellFormed) :
    expand none (slashed (gs.map Segment.text)).toList = Part.texts (gs.flatMap Segment.parts) := by
  induction gs with
  | nil => rfl
  | cons g gs ih =>
    obtain ⟨hg, hgs⟩ := List.forall_mem_cons.mp h
    have htexts : Part.texts ((g :: gs).flatMap Segment.parts) =
        Part.texts g.parts ++ Part.texts (gs.flatMap Segment.parts) := by
      simp [Part.texts]
    rw [htexts, ← ih hgs]
    cases g with
    | literal text =>
      have hparts : Part.texts (Segment.literal text).parts = '/' :: text.toList :=
        Part.texts_chars ('/' :: text.toList)
      rw [hparts, ← expand_literal (colon_notMem_of_literal hg)]
      simp [slashed, Segment.text]
    | parameter name =>
      have hne : name.toList ≠ [] := by
        intro hnil
        have hname := hg.1
        rw [Text.isName, hnil] at hname
        cases hname
      calc expand none (slashed ((Segment.parameter name :: gs).map Segment.text)).toList
          = '/' :: expand (some []) (name.toList ++ (slashed (gs.map Segment.text)).toList) := by
            simp [slashed, Segment.text, expand]
        _ = '/' ::
              (parameter name.toList ++ expand none (slashed (gs.map Segment.text)).toList) := by
            rw [expand_word (isWordChar_of_isName hg.1 hg.2), List.nil_append,
              expand_ended hne (head?_slashed _)]
        _ = _ := by simp [Segment.parts, Part.texts, Part.text]

end Expansion

section Matching

variable {before u rest : List Char} {caps tail : List (Nat × List Char)}
  {n : Nat} {gs : List Segment} {ts ts' : List String} {known : List String}
  {path : String} {ps : Parameters}

/-- The parts of the pattern of a template. -/
def Template.parts (t : Template) : List Part :=
  .start :: (t.segments.flatMap Segment.parts ++ [.stop])

theorem pattern_text (t : Template) : pattern t.text = String.ofList (Part.texts t.parts) := by
  rw [pattern, Template.text, expand_segments t.wellFormed]
  simp [Template.parts, Part.texts, Part.text, String.append_assoc]

theorem plain_of_literal {c : Char} (h : c.isAlphanum = true ∨ c = '_' ∨ c = '-' ∨ c = '/') :
    c ∉ '\x7b' :: Reader.special := by
  simp only [Reader.special, List.mem_cons, List.not_mem_nil, or_false]
  rintro (rfl | rfl | rfl | rfl | rfl | rfl | rfl | rfl | rfl | rfl | rfl | rfl) <;>
    rcases h with h | h | h | h <;> cases h

theorem readable_segments (h : ∀ g ∈ gs, g.WellFormed) (hnames : (gs.filterMap Segment.name?).Nodup)
    (hknown : ∀ x ∈ gs.filterMap Segment.name?, x ∉ known) :
    Part.Readable known (gs.flatMap Segment.parts ++ [.stop]) := by
  induction gs generalizing known with
  | nil => exact ⟨trivial, trivial⟩
  | cons g gs ih =>
    obtain ⟨hg, hgs⟩ := List.forall_mem_cons.mp h
    rw [List.flatMap_cons, List.append_assoc]
    cases g with
    | literal text =>
      have hplain : ∀ c ∈ '/' :: text.toList, c ∉ '\x7b' :: Reader.special :=
        List.forall_mem_cons.mpr ⟨plain_of_literal (by simp),
          fun c hc => plain_of_literal (by grind [hg.2 c hc])⟩
      exact Part.readable_chars hplain (ih hgs hnames hknown)
    | parameter name =>
      obtain ⟨hnew, hnames⟩ := List.nodup_cons.mp hnames
      obtain ⟨hname, hknown⟩ := List.forall_mem_cons.mp hknown
      have hplain : ∀ c ∈ ['/'], c ∉ '\x7b' :: Reader.special := by
        simpa using plain_of_literal (c := '/') (by simp)
      refine Part.readable_chars hplain
        ⟨⟨by simpa using hg.1, by simpa using hname⟩, ih hgs hnames ?_⟩
      intro x hx hmem
      rcases List.mem_append.mp hmem with hmem | hmem
      · exact hknown x hx hmem
      · obtain rfl : x = name := by simpa [Part.name?] using hmem
        exact hnew hx

/-- What the groups record when texts stand at the places of some segments, the last first. -/
def captures : Nat → List Segment → List String → List (Nat × List Char)
  | n, .parameter _ :: gs, t :: ts => captures (n + 1) gs ts ++ [(n, t.toList)]
  | n, .literal _ :: gs, _ :: ts => captures n gs ts
  | _, _, _ => []

/-- The patterns of some segments span a text exactly if it has a segment for each of them. -/
theorem spans_segments :
    Spans (Reader.inOrder (Part.patterns n (gs.flatMap Segment.parts ++ [.stop])))
        before u rest caps ↔
      (rest = [] ∨ rest = ['\n']) ∧
        ∃ ts, List.Forall₂ Segment.Takes gs ts ∧ u = (slashed ts).toList ∧
          caps = captures n gs ts := by
  induction gs generalizing n before u caps with
  | nil =>
    rw [List.flatMap_nil, List.nil_append, Part.spans_stop]
    constructor
    · rintro ⟨rfl, rfl, h⟩
      exact ⟨h, [], .nil, rfl, rfl⟩
    · rintro ⟨h, ts, hts, rfl, rfl⟩
      cases hts
      exact ⟨rfl, rfl, h⟩
  | cons g gs ih =>
    rw [List.flatMap_cons, List.append_assoc]
    cases g with
    | literal text =>
      have hparts : (Segment.literal text).parts = ('/' :: text.toList).map Part.char := rfl
      rw [hparts, Part.spans_chars]
      simp only [ih]
      constructor
      · rintro ⟨w, rfl, hrest, ts, hts, rfl, rfl⟩
        exact ⟨hrest, text :: ts, .cons rfl hts, by simp [slashed], rfl⟩
      · rintro ⟨hrest, _, hts, rfl, rfl⟩
        obtain ⟨t, ts, rfl, hgs, rfl⟩ := List.forall₂_cons_left_iff.mp hts
        exact ⟨(slashed ts).toList, by simp [slashed], hrest, ts, hgs, rfl, rfl⟩
    | parameter name =>
      have hparts : (Segment.parameter name).parts ++ (gs.flatMap Segment.parts ++ [.stop]) =
          ['/'].map Part.char ++
            (Part.parameter name.toList :: (gs.flatMap Segment.parts ++ [.stop])) := rfl
      rw [hparts, Part.spans_chars]
      simp only [Part.spans_parameter, ih]
      constructor
      · rintro ⟨_, rfl, v, _, _, rfl, rfl, hne, hslash, hrest, ts, hts, rfl, rfl⟩
        refine ⟨hrest, String.ofList v :: ts,
          .cons ⟨?_, by simpa using hslash⟩ hts, by simp [slashed], by simp [captures]⟩
        simpa using hne
      · rintro ⟨hrest, _, hts, rfl, rfl⟩
        obtain ⟨t, ts, ht, hgs, rfl⟩ := List.forall₂_cons_left_iff.mp hts
        refine ⟨t.toList ++ (slashed ts).toList,
          by simp [slashed], t.toList, _, _, rfl, rfl, ?_, ht.2, hrest, ts, hgs, rfl, rfl⟩
        simpa using ht.1

theorem lt_of_mem_captures {e : Nat × List Char} (h : e ∈ captures n gs ts) : n ≤ e.1 := by
  induction gs generalizing n ts with
  | nil => simp [captures] at h
  | cons g gs ih =>
    cases ts with
    | nil => cases g <;> simp [captures] at h
    | cons t ts =>
      cases g with
      | literal text => exact ih h
      | parameter name =>
        rcases List.mem_append.mp h with h | h
        · exact Nat.le_of_succ_le (ih h)
        · obtain rfl := List.mem_singleton.mp h
          exact Nat.le_refl n

theorem lookup_captures_of_lt {m : Nat} (h : m < n) : (captures n gs ts).lookup m = none := by
  refine List.lookup_eq_none_iff.mpr fun e he => ?_
  have hle := lt_of_mem_captures he
  simp only [bne_iff_ne]
  omega

/-- The names of the groups with what these have recorded are the parameters. -/
theorem map_names_captures (h : List.Forall₂ Segment.Takes gs ts) (tail : List (Nat × List Char)) :
    (Part.names n (gs.flatMap Segment.parts ++ [.stop])).map
      (fun e => (e.1, ((captures n gs ts ++ tail).lookup e.2).map String.ofList)) =
        parametersOf gs ts := by
  induction h generalizing n tail with
  | nil => rfl
  | @cons g t gs ts hg hgs ih =>
    rw [List.flatMap_cons, List.append_assoc]
    cases g with
    | literal text =>
      have hparts : (Segment.literal text).parts = ('/' :: text.toList).map Part.char := rfl
      rw [hparts, Part.names_chars]
      exact ih tail
    | parameter name =>
      have hnames :
          Part.names n ((Segment.parameter name).parts ++ (gs.flatMap Segment.parts ++ [.stop])) =
            (name, n) :: Part.names (n + 1) (gs.flatMap Segment.parts ++ [.stop]) := by
        simp [Segment.parts, Part.names, Part.name?]
      have hlookup :
          (captures n (.parameter name :: gs) (t :: ts) ++ tail).lookup n = some t.toList := by
        rw [captures, List.append_assoc, List.lookup_append,
          lookup_captures_of_lt (Nat.lt_succ_self n)]
        simp
      rw [hnames, List.map_cons, hlookup]
      have htail := ih (n := n + 1) ((n, t.toList) :: tail)
      simp only [captures, List.append_assoc, List.singleton_append, htail]
      simp [parametersOf, Segment.name?]

theorem takeWhile_slashed {t : String} (h : '/' ∉ t.toList) (ts : List String) :
    (t.toList ++ (slashed ts).toList).takeWhile (· != '/') = t.toList := by
  have ht : ∀ c ∈ t.toList, (c != '/') = true := fun c hc => by
    simpa using fun hslash : c = '/' => h (hslash ▸ hc)
  rw [List.takeWhile_append_of_pos ht]
  cases ts with
  | nil => simp [slashed]
  | cons t' ts => simp [slashed]

/-- A path has its segments in one way only. -/
theorem slashed_injective (h : ∀ t ∈ ts, '/' ∉ t.toList) (h' : ∀ t ∈ ts', '/' ∉ t.toList)
    (heq : slashed ts = slashed ts') : ts = ts' := by
  induction ts generalizing ts' with
  | nil =>
    cases ts' with
    | nil => rfl
    | cons t' ts' => simp [slashed, String.ext_iff] at heq
  | cons t ts ih =>
    cases ts' with
    | nil => simp [slashed, String.ext_iff] at heq
    | cons t' ts' =>
      obtain ⟨ht, hts⟩ := List.forall_mem_cons.mp h
      obtain ⟨ht', hts'⟩ := List.forall_mem_cons.mp h'
      have hlist : t.toList ++ (slashed ts).toList = t'.toList ++ (slashed ts').toList := by
        simpa [slashed] using congrArg String.toList heq
      have hhead : t = t' := by
        rw [← String.toList_inj, ← takeWhile_slashed ht ts, hlist, takeWhile_slashed ht' ts']
      subst hhead
      rw [ih hts hts' (String.toList_inj.mp (List.append_cancel_left hlist))]

theorem slash_notMem_of_takes (hgs : ∀ g ∈ gs, g.WellFormed)
    (h : List.Forall₂ Segment.Takes gs ts) :
    ∀ t ∈ ts, '/' ∉ t.toList := by
  induction h with
  | nil => simp
  | @cons g t gs ts ht _ ih =>
    obtain ⟨hg, hgs⟩ := List.forall_mem_cons.mp hgs
    refine List.forall_mem_cons.mpr ⟨?_, ih hgs⟩
    cases g with
    | literal text =>
      obtain rfl : t = text := ht
      intro hslash
      rcases hg.2 _ hslash with h | h | h <;> cases h
    | parameter name => exact ht.2

/-- The pattern of a template with the names of its groups. -/
def Template.named (t : Template) : Named :=
  ⟨Reader.inOrder (Part.patterns 1 t.parts), Part.names 1 t.parts⟩

theorem read_template (t : Template) : Pattern.read (pattern t.text) = .ok t.named := by
  rw [pattern_text]
  refine Part.read_texts ⟨trivial, readable_segments t.wellFormed t.distinct (by simp [Part.name?])⟩
    ?_ (List.cons_ne_nil _ _)
  simp [Reader.Uncut, Template.parts, Part.texts, Part.text, List.getLast?_cons]

theorem Template.simple (t : Template) : Simple t.named.pattern :=
  simple_inOrder.mpr (Part.simple_patterns 1 t.parts)

theorem Template.exists_of_match? {t : Template} (hpath : '\n' ∉ path.toList)
    (h : t.named.match? path = some ps) :
    ∃ ts, List.Forall₂ Segment.Takes t.segments ts ∧ path = slashed ts ∧
      ps = parametersOf t.segments ts := by
  obtain ⟨place, hplace, rfl⟩ := Option.map_eq_some_iff.mp h
  obtain ⟨u, rest, caps, htext, hspans, hend⟩ := exists_of_run t.simple hplace
  obtain ⟨hrest, ts, hts, rfl, rfl⟩ := spans_segments.mp (Part.spans_start.mp hspans)
  -- A line end after the text would be a character of the path.
  obtain rfl : rest = [] := hrest.resolve_right fun hrest => hpath (by
    rw [show path.toList = _ from htext, hrest]
    simp)
  obtain rfl := Option.some.inj hend
  refine ⟨ts, hts, String.toList_inj.mp (by rw [show path.toList = _ from htext, List.append_nil]),
    ?_⟩
  exact map_names_captures hts []

theorem Template.isSome_match? {t : Template} (h : List.Forall₂ Segment.Takes t.segments ts) :
    (t.named.match? (slashed ts)).isSome = true := by
  have hspans : Spans t.named.pattern [] (slashed ts).toList [] (captures 1 t.segments ts) :=
    Part.spans_start.mpr (spans_segments.mpr ⟨.inl rfl, ts, h, rfl, rfl⟩)
  rw [Named.match?, Option.isSome_map]
  exact (Pattern.isSome_match? t.simple).mpr ⟨_, [], _, (List.append_nil _).symm, hspans⟩

end Matching

/-- A template can be read as a pattern, and this matches a path exactly if the path has a text for
each segment; the parameters are then the texts at their places. -/
theorem match_template_iff (t : Template) : ∃ q, Pattern.read (pattern t.text) = .ok q ∧
    ∀ path ps, '\n' ∉ path.toList → (q.match? path = some ps ↔
      ∃ ts, List.Forall₂ Segment.Takes t.segments ts ∧ path = slashed ts ∧
        ps = parametersOf t.segments ts) := by
  refine ⟨t.named, read_template t, fun path ps hpath => ⟨t.exists_of_match? hpath, ?_⟩⟩
  rintro ⟨ts, hts, rfl, rfl⟩
  obtain ⟨ps, hps⟩ := Option.isSome_iff_exists.mp (t.isSome_match? hts)
  obtain ⟨ts', hts', heq, rfl⟩ := t.exists_of_match? hpath hps
  obtain rfl :=
    slashed_injective (slash_notMem_of_takes t.wellFormed hts)
      (slash_notMem_of_takes t.wellFormed hts') heq
  exact hps

/-- A template with two parameters. -/
def userPosts : Template where
  segments := [.literal "users", .parameter "id", .literal "posts", .parameter "post_id"]
  nonempty := by simp
  wellFormed := by decide
  distinct := by decide

theorem match_userPosts : '\n' ∉ "/users/42/posts/x-1".toList ∧
    ∃ q, Pattern.read (pattern "/users/:id/posts/:post_id") = .ok q ∧
      q.match? "/users/42/posts/x-1" = some [("id", some "42"), ("post_id", some "x-1")] := by
  obtain ⟨q, hq, hmatch⟩ := match_template_iff userPosts
  have hpath : '\n' ∉ "/users/42/posts/x-1".toList := by decide
  refine ⟨hpath, q, hq, (hmatch _ _ hpath).mpr ⟨["users", "42", "posts", "x-1"], ?_, rfl, rfl⟩⟩
  exact .cons rfl (.cons ⟨by decide, by decide⟩ (.cons rfl (.cons ⟨by decide, by decide⟩ .nil)))

end FloScript.Route
