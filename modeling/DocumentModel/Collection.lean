/-
Collections of data.

A collection keeps flat data under identifiers, in the order of insertion.  A filter names members
and the values they must have; a member that is missing counts as null, and the member `_id` is the
identifier itself.
-/
import DocumentModel.Value.Extended

namespace DocumentModel

/-- Flat data under identifiers, oldest entry first. -/
structure Collection where
  entries : List (ObjectId × Json.Object)

namespace Collection

/-- The name that stands for the identifier in a filter. -/
def idKey : String := "_id"

def empty : Collection := ⟨[]⟩

def size (c : Collection) : Nat :=
  c.entries.length

def isEmpty (c : Collection) : Bool :=
  c.entries.isEmpty

/-- Does the data under an identifier have every member that a filter asks for? -/
def matchesFilter (filter : Json.Object) (id : ObjectId) (data : Json.Object) : Bool :=
  filter.all fun (key, expected) =>
    if key = idKey then expected.same id.toJson
    else ((data.get? key).getD .null).same expected

def insert (c : Collection) (id : ObjectId) (data : Json.Object) : Collection :=
  ⟨c.entries ++ [(id, data)]⟩

def find? (c : Collection) (id : ObjectId) : Option Json.Object :=
  c.entries.lookup id

theorem find?_eq_none_iff {c : Collection} {id : ObjectId} :
    c.find? id = none ↔ id ∉ c.entries.map Prod.fst := by
  rw [find?, List.lookup_eq_none_iff, List.mem_map]
  constructor
  · rintro hnone ⟨e, he, rfl⟩
    simpa using hnone e he
  · intro hid e he
    exact bne_iff_ne.mpr fun heq => hid ⟨e, he, heq.symm⟩

theorem isSome_find?_iff {c : Collection} {id : ObjectId} :
    (c.find? id).isSome = true ↔ id ∈ c.entries.map Prod.fst := by
  rw [← Option.ne_none_iff_isSome, Ne, find?_eq_none_iff, Decidable.not_not]

theorem size_insert (c : Collection) (id : ObjectId) (data : Json.Object) :
    (c.insert id data).size = c.size + 1 := by
  simp [insert, size]

/-- What is added under a new identifier is found under it. -/
theorem find?_insert_self (c : Collection) {id : ObjectId} (data : Json.Object)
    (hnew : c.find? id = none) : (c.insert id data).find? id = some data := by
  simp only [find?, insert, List.lookup_append] at hnew ⊢
  simp [hnew]

theorem find?_insert_of_ne (c : Collection) {id other : ObjectId} (data : Json.Object)
    (hne : other ≠ id) : (c.insert id data).find? other = c.find? other := by
  have hkey : (other == id) = false := by simpa using hne
  simp [find?, insert, List.lookup_append, List.lookup_cons, hkey]

def find (c : Collection) (filter : Json.Object) : List (ObjectId × Json.Object) :=
  c.entries.filter fun e => matchesFilter filter e.1 e.2

def updateEntries (id : ObjectId) (changes : Json.Object) :
    List (ObjectId × Json.Object) → List (ObjectId × Json.Object)
  | [] => []
  | (i, data) :: rest =>
      if i = id then (i, data.merge changes) :: rest
      else (i, data) :: updateEntries id changes rest

/-- Set members of the data under an identifier.  Says whether there is any. -/
def update (c : Collection) (id : ObjectId) (changes : Json.Object) : Bool × Collection :=
  ((c.find? id).isSome, ⟨updateEntries id changes c.entries⟩)

/-- Remove what is under an identifier.  Says whether there was anything. -/
def remove (c : Collection) (id : ObjectId) : Bool × Collection :=
  ((c.find? id).isSome, ⟨c.entries.filter fun e => e.1 ≠ id⟩)

theorem map_fst_remove (c : Collection) (id : ObjectId) :
    (c.remove id).2.entries.map Prod.fst = (c.entries.map Prod.fst).filter (· ≠ id) := by
  rw [remove, List.filter_map]
  rfl

theorem find?_remove_self (c : Collection) (id : ObjectId) :
    (c.remove id).2.find? id = none := by
  rw [find?, remove, List.lookup_eq_none_iff]
  intro e he
  have hne : e.1 ≠ id := by simpa using (List.mem_filter.mp he).2
  simpa using hne.symm

end Collection

end DocumentModel
