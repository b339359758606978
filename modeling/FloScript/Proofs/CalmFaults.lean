import FloScript.Builtin
import FloScript.Value.Member
import FloScript.Value.Operator

/-! The faults of what is worked out from values. None of them is about a node or an operator that
nobody knows; only the evaluation of a tree can end with one of those. -/
namespace FloScript

/-- The fault is not about an unknown node or operator. -/
def Fault.isCalm : Fault → Bool
  | .runtime (.unknownNode _) | .runtime (.unknownOperator _)
  | .runtime (.unknownUnaryOperator _) => false
  | _ => true

variable {α β : Type} {r : Except Fault α} {f : α → Except Fault β} {e : Fault}

/-- What is worked out fails with a calm fault only. -/
def Calm (r : Except Fault α) : Prop := ∀ e, r = .error e → e.isCalm = true

@[simp] theorem calm_ok (a : α) : Calm (.ok a) := by
  intro e h
  cases h

@[simp] theorem calm_pure (a : α) : Calm (pure a : Except Fault α) := calm_ok a

@[simp] theorem calm_error : Calm (.error e : Except Fault α) ↔ e.isCalm = true := by
  constructor
  · intro h
    exact h e rfl
  · rintro h _ ⟨rfl⟩
    exact h

theorem calm_bind (hr : Calm r) (hf : ∀ a, Calm (f a)) : Calm (r >>= f) := by
  cases r with
  | error e =>
    rintro _ ⟨rfl⟩
    exact hr e rfl
  | ok a => exact hf a

theorem calm_map {g : α → β} (hr : Calm r) : Calm (do return g (← r)) :=
  calm_bind hr fun _ => calm_pure _

theorem calm_mapM (hf : ∀ a, Calm (f a)) (as : List α) : Calm (as.mapM f) := by
  induction as with
  | nil => exact calm_pure _
  | cons a as ih =>
    rw [List.mapM_cons]
    exact calm_bind (hf a) fun b => calm_map ih

section Texts

variable {ss : Scopes}

theorem calm_integerText (i : Int) : Calm (integerText i) := by
  unfold integerText
  simp only
  split
  · exact calm_error.mpr rfl
  · split
    · exact calm_error.mpr rfl
    · exact calm_ok _

theorem calm_quotedWithin (n : Nat) (seen : List Nat) (v : Value) :
    Calm (v.quotedWithin ss n seen) := by
  induction n generalizing seen v with
  | zero => exact calm_error.mpr rfl
  | succ n ih =>
    cases v with
    | int i => exact calm_integerText i
    | list items => exact calm_map (calm_mapM (ih seen) items)
    | tuple items =>
      rcases items with _ | ⟨v, _ | ⟨w, vs⟩⟩
      · exact calm_map (calm_mapM (ih seen) [])
      · exact calm_map (ih seen v)
      · exact calm_map (calm_mapM (ih seen) (v :: w :: vs))
    | dict es =>
      refine calm_map (calm_mapM (fun e => ?_) es)
      exact calm_bind (ih seen e.1) fun _ => calm_map (ih seen e.2)
    | bindings id =>
      simp only [Value.quotedWithin]
      split
      · exact calm_ok _
      · refine calm_map (calm_mapM (fun b => ?_) _)
        exact calm_map (ih (id :: seen) b.2)
    | _ => exact calm_ok _

theorem calm_display (v : Value) : Calm (v.display ss) := by
  cases v with
  | text s => exact calm_ok s
  | _ => exact calm_quotedWithin _ _ _

end Texts

section Equality

variable {ss : Scopes} {test : Value → Except Fault Bool}
  {test₂ : Value → Value → Except Fault Bool}

theorem calm_findEntry (ht : ∀ v, Calm (test v)) (es : List (Value × Value)) :
    Calm (Value.findEntry test es) := by
  induction es with
  | nil => exact calm_ok _
  | cons e es ih =>
    refine calm_bind (ht e.1) fun b => ?_
    cases b with
    | true => exact calm_ok _
    | false => exact ih

theorem calm_pairwise (ht : ∀ v w, Calm (test₂ v w)) (vs ws : List Value) :
    Calm (Value.pairwise test₂ vs ws) := by
  induction vs generalizing ws with
  | nil => cases ws <;> exact calm_ok _
  | cons v vs ih =>
    cases ws with
    | nil => exact calm_ok _
    | cons w ws =>
      refine calm_bind (ht v w) fun b => ?_
      cases b with
      | true => exact ih ws
      | false => exact calm_ok _

theorem calm_entriesWithin (ht : ∀ v w, Calm (test₂ v w)) (bs es : List (Value × Value)) :
    Calm (Value.entriesWithin test₂ bs es) := by
  induction es with
  | nil => exact calm_ok _
  | cons e es ih =>
    refine calm_bind (calm_findEntry (ht e.1) bs) fun o => ?_
    cases o with
    | none => exact calm_ok _
    | some w =>
      refine calm_bind (ht e.2 w) fun b => ?_
      cases b with
      | true => exact ih
      | false => exact calm_ok _

theorem calm_equalWithin (n : Nat) (v w : Value) : Calm (Value.equalWithin ss n v w) := by
  induction n generalizing v w with
  | zero => exact calm_error.mpr rfl
  | succ n ih =>
    have hinner (v w : Value) :
        Calm (if Value.same v w then .ok true else Value.equalWithin ss n v w) := by
      split
      · exact calm_ok _
      · exact ih v w
    unfold Value.equalWithin
    simp only
    split
    case h_3 | h_8 =>
      split
      · exact calm_pairwise hinner _ _
      · exact calm_ok _
    case h_4 => exact calm_pairwise hinner _ _
    case h_11 =>
      split
      · exact hinner _ _
      · exact calm_ok _
    case h_13 =>
      split
      · split
        · exact calm_entriesWithin hinner _ _
        · exact calm_ok _
      · split <;> exact calm_ok _
    all_goals exact calm_ok _

theorem calm_matching (v w : Value) : Calm (Value.matching ss v w) := by
  unfold Value.matching
  split
  · exact calm_ok _
  · exact calm_equalWithin _ v w

theorem calm_checkKey (v : Value) : Calm v.checkKey := by
  unfold Value.checkKey
  split
  · exact calm_error.mpr rfl
  · exact calm_ok _

theorem calm_putEntry (ht : ∀ v, Calm (test v)) (k v : Value) (es : List (Value × Value)) :
    Calm (Value.putEntry test k v es) := by
  induction es with
  | nil => exact calm_ok _
  | cons e es ih =>
    refine calm_bind (ht e.1) fun b => ?_
    cases b with
    | true => exact calm_ok _
    | false => exact calm_map ih

theorem calm_insert (k v : Value) (es : List (Value × Value)) : Calm (Value.insert ss k v es) :=
  calm_bind (calm_checkKey k) fun _ => calm_putEntry (calm_matching k) k v es

theorem calm_find? (k : Value) (es : List (Value × Value)) : Calm (Value.find? ss k es) :=
  calm_bind (calm_checkKey k) fun _ => calm_findEntry (calm_matching k) es

theorem calm_member (v : Value) (name : String) : Calm (v.member ss name) := by
  unfold Value.member
  cases v.entries? ss with
  | none => exact calm_ok _
  | some es =>
    refine calm_bind (calm_find? _ es) fun o => ?_
    cases o <;> exact calm_ok _

theorem calm_index (v w : Value) : Calm (v.index ss w) := by
  unfold Value.index
  split
  case h_4 =>
    split
    · exact calm_ok _
    · split
      · exact calm_ok _
      · exact calm_map (calm_find? _ _)
  all_goals exact calm_ok _

end Equality

section Names

variable {ss : Scopes} {name : String}

theorem calm_locate (n id : Nat) : Calm (ss.locate name n id) := by
  induction n generalizing id with
  | zero => exact calm_error.mpr rfl
  | succ n ih =>
    unfold Scopes.locate
    split
    · exact calm_ok _
    · split
      · exact calm_ok _
      · split
        · exact calm_ok _
        · exact ih _

theorem calm_get (id : Nat) : Calm (ss.get id name) := by
  refine calm_bind (calm_locate _ id) fun p => ?_
  simp only
  split
  · exact calm_ok _
  · exact calm_error.mpr rfl

theorem calm_assign (id : Nat) (v : Value) : Calm (ss.assign id name v) :=
  calm_map (calm_locate _ id)

end Names

section Numbers

theorem calm_toFloat (x : Number) : Calm x.toFloat := by
  unfold Number.toFloat
  split
  · split
    · exact calm_ok _
    · exact calm_error.mpr rfl
  · exact calm_ok _

theorem calm_combine {ints : Int → Int → Except Fault Number}
    {floats : Float → Float → Except Fault Number} (hi : ∀ a b, Calm (ints a b))
    (hf : ∀ x y, Calm (floats x y)) (x y : Number) :
    Calm (Number.combine ints floats x y) := by
  unfold Number.combine
  split
  · exact hi _ _
  · exact calm_bind (calm_toFloat _) fun _ => calm_bind (calm_toFloat _) fun _ => hf _ _

theorem calm_add (x y : Number) : Calm (x.add y) :=
  calm_combine (fun _ _ => calm_ok _) (fun _ _ => calm_ok _) x y

theorem calm_sub (x y : Number) : Calm (x.sub y) :=
  calm_combine (fun _ _ => calm_ok _) (fun _ _ => calm_ok _) x y

theorem calm_mul (x y : Number) : Calm (x.mul y) :=
  calm_combine (fun _ _ => calm_ok _) (fun _ _ => calm_ok _) x y

theorem calm_div (x y : Number) : Calm (x.div y) := by
  refine calm_combine (fun a b => ?_) (fun a b => ?_) x y
  · unfold Number.divideInts
    split
    · exact calm_error.mpr rfl
    · split
      · exact calm_ok _
      · exact calm_error.mpr rfl
  · unfold Number.divideFloats
    split
    · exact calm_error.mpr rfl
    · exact calm_ok _

theorem calm_rem (x y : Number) : Calm (x.rem y) := by
  refine calm_combine (fun a b => ?_) (fun a b => ?_) x y
  · split
    · exact calm_error.mpr rfl
    · exact calm_ok _
  · split
    · exact calm_error.mpr rfl
    · exact calm_ok _

theorem calm_truncate (x : Number) : Calm x.truncate := by
  cases x with
  | int i => exact calm_ok i
  | float x =>
    simp only [Number.truncate, Number.truncateFloat]
    split
    · exact calm_ok _
    · split <;> exact calm_error.mpr rfl

theorem calm_repetitions (limit : Nat) (he : e.isCalm = true) (length : Nat) (count : Int) :
    Calm (Value.repetitions limit e length count) := by
  unfold Value.repetitions
  split
  · exact calm_error.mpr rfl
  · split
    · exact calm_error.mpr he
    · split <;> exact calm_ok _

theorem calm_replicate (v : Value) (count : Int) : Calm (v.replicate count) := by
  unfold Value.replicate
  split
  · exact calm_map (calm_repetitions _ rfl _ _)
  · exact calm_map (calm_repetitions _ rfl _ _)
  · exact calm_map (calm_repetitions _ rfl _ _)
  · exact calm_ok _

theorem calm_firstDifference {ss : Scopes} (vs ws : List Value) :
    Calm (Value.firstDifference ss vs ws) := by
  induction vs generalizing ws with
  | nil => exact calm_ok _
  | cons v vs ih =>
    cases ws with
    | nil => exact calm_ok _
    | cons w ws =>
      refine calm_bind (calm_matching v w) fun b => ?_
      cases b with
      | true => exact ih ws
      | false => exact calm_ok _

theorem calm_orderWithin {ss : Scopes} (c : Comparison) (n : Nat) (v w : Value) :
    Calm (Value.orderWithin ss c n v w) := by
  induction n generalizing v w with
  | zero => exact calm_error.mpr rfl
  | succ n ih =>
    unfold Value.orderWithin
    simp only
    split
    case h_1 => exact calm_ok _
    case h_2 | h_3 =>
      refine calm_bind (calm_firstDifference _ _) fun p => ?_
      split
      · exact ih _ _
      · exact calm_ok _
    case h_4 =>
      split
      · exact calm_ok _
      · exact calm_error.mpr rfl

end Numbers

section Routines

theorem calm_toInteger (v : Value) : Calm (Native.toInteger v) := by
  unfold Native.toInteger
  split
  · split
    · exact calm_ok _
    · next e _ => cases e <;> exact calm_error.mpr rfl
  · split
    · exact calm_truncate _
    · exact calm_error.mpr rfl

theorem calm_bound (v : Value) : Calm (Native.bound v) := by
  unfold Native.bound
  split
  · exact calm_ok _
  · exact calm_error.mpr rfl

theorem calm_steps (start stop step : Int) : Calm (Native.steps start stop step) := by
  unfold Native.steps
  simp only
  split
  · exact calm_error.mpr rfl
  · split
    · exact calm_error.mpr rfl
    · exact calm_ok _

theorem calm_rangeOf (vs : List Value) : Calm (Native.rangeOf vs) := by
  unfold Native.rangeOf
  split
  · exact calm_error.mpr rfl
  · exact calm_bind (calm_bound _) fun _ => calm_steps _ _ _
  · exact calm_bind (calm_bound _) fun _ => calm_bind (calm_bound _) fun _ => calm_steps _ _ _
  · refine calm_bind (calm_bound _) fun _ =>
      calm_bind (calm_bound _) fun _ => calm_bind (calm_bound _) fun _ => ?_
    split
    · exact calm_error.mpr rfl
    · exact calm_steps _ _ _
  · exact calm_error.mpr rfl

end Routines

namespace Percent

variable {p : Reader α} {q : α → Reader β} {ss : Scopes} {source v : Value}

/-- What is read fails with a calm fault only, whatever is still to be read. -/
def Mild (p : Reader α) : Prop := ∀ i, Calm (p.run i)

theorem mild_pure (a : α) : Mild (pure a) := fun _ => calm_ok _

theorem mild_bind (hp : Mild p) (hq : ∀ a, Mild (q a)) : Mild (p >>= q) :=
  fun i => calm_bind (hp i) fun r => hq r.1 r.2

theorem mild_get : Mild get := fun _ => calm_ok _

theorem mild_modify (f : Input → Input) : Mild (modify f) := fun _ => calm_ok _

theorem mild_fail (he : e.isCalm = true) : Mild (fail e : Reader α) := fun _ => calm_error.mpr he

theorem mild_lift (hr : Calm r) : Mild (liftM r : Reader α) :=
  fun _ => calm_bind hr fun _ => calm_ok _

theorem mild_next : Mild next := by
  refine mild_bind mild_get fun i => ?_
  split
  · exact mild_fail rfl
  · exact mild_bind (mild_modify _) fun _ => mild_pure _

theorem mild_peek : Mild peek := by
  refine mild_bind mild_get fun i => ?_
  split
  · exact mild_fail rfl
  · exact mild_pure _

theorem mild_argument : Mild argument := by
  refine mild_bind mild_get fun i => ?_
  split
  · exact mild_fail rfl
  · exact mild_bind (mild_modify _) fun _ => mild_pure _

theorem mild_starArgument (word : String) (bits : Nat) : Mild (starArgument word bits) := by
  refine mild_bind mild_argument fun v => ?_
  split
  · exact mild_fail rfl
  · simp only
    split
    · exact mild_pure _
    · exact mild_fail rfl

theorem calm_keyed (key : String) : Calm (keyed ss source key) := by
  unfold keyed
  split
  · split
    · exact calm_ok _
    · exact calm_error.mpr rfl
  · split <;> exact calm_error.mpr rfl

theorem mild_readKey : Mild (readKey ss source) := by
  refine mild_bind mild_get fun i => ?_
  split
  · split
    case h_4 => exact mild_fail rfl
    all_goals
      split
      · exact mild_fail rfl
      · exact mild_bind (mild_lift (calm_keyed _)) fun _ _ => calm_ok _
  · exact mild_pure _

theorem mild_takeWhile (f : Char → Bool) : Mild (takeWhile f) :=
  mild_bind mild_get fun _ => mild_bind (mild_modify _) fun _ => mild_pure _

theorem mild_readNumber (limit : Nat) (he : e.isCalm = true) : Mild (readNumber limit e) := by
  refine mild_bind (mild_takeWhile _) fun cs => ?_
  simp only
  split
  · exact mild_fail he
  · exact mild_pure _

/-- The width, the precision and the letter for a length come one after the other, each of them left
out or not. -/
theorem mild_readLayout : Mild readLayout := by
  have hletter (l : Layout) : Mild (do
      if "hlL".toList.contains (← peek) then
        let _ ← next
      return l) := by
    refine mild_bind mild_peek fun c => ?_
    split
    · exact mild_bind mild_next fun _ => mild_pure _
    · exact mild_pure _
  refine mild_bind (mild_takeWhile _) fun flags => ?_
  refine mild_bind mild_peek fun c => ?_
  have hprecision (l : Layout) : Mild (do
      let mut layout : Layout := l
      if (← peek) = '.' then
        let _ ← next
        if (← peek) = '*' then
          let _ ← next
          layout := { layout with precision := some (← starArgument "int" 31).toNat }
        else
          layout :=
            { layout with
              precision := some (← readNumber (Nat.pow 2 31 - 1) (.value .precisionTooBig)) }
      if "hlL".toList.contains (← peek) then
        let _ ← next
      return layout) := by
    refine mild_bind mild_peek fun c => ?_
    split
    · refine mild_bind mild_next fun _ => mild_bind mild_peek fun c => ?_
      split
      · exact mild_bind mild_next fun _ => mild_bind (mild_starArgument _ _) fun _ => hletter _
      · exact mild_bind (mild_readNumber _ rfl) fun _ => hletter _
    · exact hletter _
  split
  · exact mild_bind mild_next fun _ => mild_bind (mild_starArgument _ _) fun _ => hprecision _
  · exact mild_bind (mild_readNumber _ rfl) fun _ => hprecision _

theorem calm_putInteger (l : Layout) (mark : List Char) (negative : Bool) (digits : List Char) :
    Calm (l.putInteger mark negative digits) := by
  unfold Layout.putInteger
  simp only
  split
  · exact calm_error.mpr rfl
  · exact calm_ok _

theorem calm_wholeOf (letter : Char) : Calm (wholeOf letter v) := by
  unfold wholeOf
  split
  · exact calm_truncate _
  · exact calm_error.mpr rfl

theorem calm_integerOf (letter : Char) : Calm (integerOf letter v) := by
  unfold integerOf
  split
  · exact calm_ok _
  · exact calm_error.mpr rfl

theorem calm_floatOf : Calm (floatOf v) := by
  unfold floatOf
  split
  · exact calm_toFloat _
  · exact calm_error.mpr rfl

theorem calm_charOf : Calm (charOf v) := by
  unfold charOf
  split
  · split
    · exact calm_ok _
    · exact calm_error.mpr rfl
  · split
    · exact calm_error.mpr rfl
    · split
      · exact calm_ok _
      · exact calm_error.mpr rfl

theorem calm_put (l : Layout) (letter : Char) (index : Nat) : Calm (l.put ss letter index v) := by
  unfold Layout.put
  split
  · exact calm_map (calm_display _)
  · exact calm_map (calm_quotedWithin _ _ _)
  · exact calm_map (calm_quotedWithin _ _ _)
  case h_16 => exact calm_map calm_charOf
  case h_17 => exact calm_error.mpr rfl
  case h_4 | h_5 | h_6 =>
    exact calm_bind (calm_wholeOf _) fun _ =>
      calm_bind (calm_integerText _) fun _ => calm_putInteger _ _ _ _
  case h_7 | h_8 | h_9 => exact calm_bind (calm_integerOf _) fun _ => calm_putInteger _ _ _ _
  all_goals exact calm_map calm_floatOf

theorem mild_directive (total : Nat) : Mild (directive ss source total) := by
  refine mild_bind mild_get fun i => ?_
  split
  · exact mild_bind mild_next fun _ => mild_pure _
  · refine mild_bind mild_readKey fun _ =>
      mild_bind mild_readLayout fun l => mild_bind mild_next fun c => ?_
    refine mild_bind mild_get fun i => mild_bind mild_argument fun v => ?_
    exact mild_lift (calm_put l c _)

theorem mild_pieces (total n : Nat) : Mild (pieces ss source total n) := by
  induction n with
  | zero => exact mild_pure _
  | succ n ih =>
    refine mild_bind mild_get fun i => ?_
    split
    · exact mild_pure _
    · refine mild_bind (mild_modify _) fun _ => mild_bind (mild_directive total) fun s => ?_
      exact mild_bind ih fun _ => mild_pure _
    · exact mild_bind (mild_takeWhile _) fun _ => mild_bind ih fun _ => mild_pure _

theorem calm_format (s : String) : Calm (format ss s source) := by
  refine calm_bind (mild_pieces _ _ _) fun r => ?_
  simp only
  split
  · exact calm_ok _
  · exact calm_error.mpr rfl

end Percent

end FloScript
