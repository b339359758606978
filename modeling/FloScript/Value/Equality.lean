import FloScript.Value.Display

/-! Equality of values. Inside lists and dicts a value also equals itself when it is not a
number. -/
namespace FloScript.Value

/-- Whether two values are one and the same even if they are not equal. -/
def same : Value → Value → Bool
  | nan a, nan b => a = b
  | bindings a, bindings b => a = b
  | _, _ => false

/-- The value of the first entry whose key passes a test. -/
def findEntry (test : Value → Except Fault Bool) :
    List (Value × Value) → Except Fault (Option Value)
  | [] => .ok none
  | (k, v) :: es => do if ← test k then return some v else findEntry test es

/-- Whether two lists have the same length and pairwise pass a test. -/
def pairwise (test : Value → Value → Except Fault Bool) :
    List Value → List Value → Except Fault Bool
  | [], [] => .ok true
  | a :: as, b :: bs => do if ← test a b then pairwise test as bs else return false
  | _, _ => .ok false

/-- Whether every entry of the first list has its equal in the second. -/
def entriesWithin (test : Value → Value → Except Fault Bool) (bs : List (Value × Value)) :
    List (Value × Value) → Except Fault Bool
  | [] => .ok true
  | (k, v) :: es => do
    match ← findEntry (test k) bs with
    | none => return false
    | some w => if ← test v w then entriesWithin test bs es else return false

/-- Whether two values are equal, compared at most `n` deep. -/
def equalWithin (ss : Scopes) : Nat → Value → Value → Except Fault Bool
  | 0, _, _ => .error .depth
  | n + 1, a, b =>
    let inner (v w : Value) : Except Fault Bool :=
      if same v w then .ok true else equalWithin ss n v w
    match a, b with
    | null, null => .ok true
    | text s, text t => .ok (s = t)
    | list as, list bs => if as.length = bs.length then pairwise inner as bs else .ok false
    | tuple as, tuple bs => pairwise inner as bs
    | function i _, function j _ => .ok (i = j)
    | native i, native j => .ok (i = j)
    | code i, code j => .ok (i = j)
    | node s, node t =>
      if s.typeName = t.typeName then
        pairwise inner (s.fields.map fun f => ofField f.2) (t.fields.map fun f => ofField f.2)
      else .ok false
    | scope i, scope j => .ok (i = j)
    | task _ i, task _ j => .ok (i = j)
    | method v o s, method w p t => if o = p ∧ s = t then inner v w else .ok false
    | scopeMethod i s, scopeMethod j t => .ok (i = j ∧ s = t)
    | _, _ =>
      match a.entries? ss, b.entries? ss with
      | some es, some fs => if es.length = fs.length then entriesWithin inner fs es else .ok false
      | _, _ =>
        match a.num?, b.num? with
        | some x, some y => .ok (x.equal y)
        | _, _ => .ok false

/-- Whether two values are equal. -/
def equal (ss : Scopes) (a b : Value) : Except Fault Bool := equalWithin ss depthLimit a b

/-- Whether two values are equal as elements of a list or as keys of a dict. -/
def matching (ss : Scopes) (a b : Value) : Except Fault Bool :=
  if same a b then .ok true else equal ss a b

mutual

/-- The type of the first part of a value that cannot be a key. -/
def unhashable? : Value → Option String
  | list _ => some "list"
  | dict _ | bindings _ => some "dict"
  | node n => some n.typeName
  | tuple items => unhashableItem? items
  | _ => none

def unhashableItem? : List Value → Option String
  | [] => none
  | v :: vs =>
    match unhashable? v with
    | some name => some name
    | none => unhashableItem? vs

end

/-- Fails for a value that cannot be a key. -/
def checkKey (k : Value) : Except Fault Unit :=
  match k.unhashable? with
  | some name => .error (.type (.unhashable name))
  | none => .ok ()

/-- Puts an entry into a dict: an equal key keeps its place and spelling and gets the new value. -/
def putEntry (test : Value → Except Fault Bool) (k v : Value) :
    List (Value × Value) → Except Fault (List (Value × Value))
  | [] => .ok [(k, v)]
  | (j, w) :: es => do
    if ← test j then return (j, v) :: es else return (j, w) :: (← putEntry test k v es)

/-- Puts an entry into a dict, if its key can be one. -/
def insert (ss : Scopes) (k v : Value) (es : List (Value × Value)) :
    Except Fault (List (Value × Value)) := do
  checkKey k
  putEntry (fun j => matching ss k j) k v es

/-- The value of a key in a dict. -/
def find? (ss : Scopes) (k : Value) (es : List (Value × Value)) : Except Fault (Option Value) := do
  checkKey k
  findEntry (fun j => matching ss k j) es

end FloScript.Value
