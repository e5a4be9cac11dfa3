/-
JSON values.  Integers and floating-point numbers are kept apart, and the members of an object keep
their order.  `Json.same` is equality up to the order of members, at every depth.
-/

namespace DocumentModel

/-- A JSON value.  An integer literal stays an integer as long as it fits in 64 bits. -/
inductive Json where
  | null
  | bool (b : Bool)
  | int (n : Int)
  | float (x : Float)
  | str (s : String)
  | arr (items : List Json)
  | obj (members : List (String × Json))
deriving Inhabited

namespace Json

/-- The members of a JSON object, in order. -/
abbrev Object := List (String × Json)

namespace Object

def get? (data : Object) (key : String) : Option Json :=
  data.lookup key

/-- Set one member: a known key keeps its position and takes the new value, a new key goes last. -/
def put (data : Object) (key : String) (value : Json) : Object :=
  match data with
  | [] => [(key, value)]
  | (k, v) :: rest => if k = key then (k, value) :: rest else (k, v) :: put rest key value

theorem get?_put_self (data : Object) (key : String) (value : Json) :
    (data.put key value).get? key = some value := by
  induction data with
  | nil => simp [put, get?]
  | cons member rest ih =>
      obtain ⟨k, v⟩ := member
      by_cases hk : k = key
      · simp [put, get?, hk]
      · have hkey : (key == k) = false := by simpa using Ne.symm hk
        simpa [put, get?, hk, List.lookup_cons, hkey] using ih

theorem get?_put_of_ne (data : Object) {k key : String} (value : Json) (hne : k ≠ key) :
    (data.put key value).get? k = data.get? k := by
  have hkey : (k == key) = false := by simpa using hne
  induction data with
  | nil => simp [put, get?, List.lookup_cons, hkey]
  | cons member rest ih =>
      obtain ⟨l, v⟩ := member
      by_cases hl : l = key
      · subst hl
        simp [put, get?, List.lookup_cons, hkey]
      · by_cases hk : k = l
        · simp [put, get?, hl, hk]
        · have hkl : (k == l) = false := by simpa using hk
          simpa [put, get?, hl, List.lookup_cons, hkl] using ih

/-- Setting a member keeps the names and their order; only a new name is added, at the end. -/
theorem map_fst_put (data : Object) (key : String) (value : Json) :
    (data.put key value).map Prod.fst =
      if key ∈ data.map Prod.fst then data.map Prod.fst else data.map Prod.fst ++ [key] := by
  induction data with
  | nil => simp [put]
  | cons member rest ih =>
      obtain ⟨k, v⟩ := member
      by_cases hk : k = key
      · simp [put, hk]
      · have hkey : ¬ key = k := Ne.symm hk
        simp only [put, hk, ↓reduceIte, List.map_cons, ih, List.mem_cons, hkey, false_or]
        split <;> simp

def merge (data changes : Object) : Object :=
  changes.foldl (fun acc change => acc.put change.1 change.2) data

/-- No key is named twice after a merge. -/
theorem nodup_merge {data : Object} (hkeys : (data.map Prod.fst).Nodup) (changes : Object) :
    ((data.merge changes).map Prod.fst).Nodup := by
  induction changes generalizing data with
  | nil => exact hkeys
  | cons first rest ih =>
      refine ih ?_
      rw [map_fst_put]
      split
      · exact hkeys
      · next hnew =>
          exact List.nodup_append.mpr ⟨hkeys, List.pairwise_singleton _ first.1, fun k hk l hl heq =>
            hnew (List.mem_singleton.mp hl ▸ heq ▸ hk)⟩

/-- An object built member by member: a repeated key keeps its first position and its last value. -/
def ofMembers (members : List (String × Json)) : Object :=
  merge [] members

end Object

mutual

/-- Equality of values that ignores the order of members.  An integer never equals a
floating-point number, and the two zeros are equal. -/
def same : Json → Json → Bool
  | .null, .null => true
  | .bool a, .bool b => a == b
  | .int a, .int b => a == b
  | .float a, .float b => a == b
  | .str a, .str b => a == b
  | .arr as, .arr bs => sameItems as bs
  | .obj as, .obj bs => as.length == bs.length && sameMembers as bs
  | _, _ => false

def sameItems : List Json → List Json → Bool
  | [], [] => true
  | a :: as, b :: bs => same a b && sameItems as bs
  | _, _ => false

/-- Every member on the left has an equal member of the same name on the right. -/
def sameMembers : List (String × Json) → List (String × Json) → Bool
  | [], _ => true
  | (key, a) :: rest, bs =>
      (match bs.lookup key with
        | some b => same a b
        | none => false) && sameMembers rest bs

end

end Json

end DocumentModel
