/-
Store operations as changes.

Saving validates a document and assigns the times to it; finding makes new documents; deleting
touches the collection only.
-/
import DocumentModel.Proofs.Hydration
import DocumentModel.Proofs.Validation
import DocumentModel.Store

namespace DocumentModel.Store

open Heap

variable {types : List Schema} {n m : Nat}

theorem heap_log (store : Store) (s : Session) (e : Event) (fields : List (String × String)) :
    (store.log s e fields).heap = s.heap := by
  rw [log]
  split <;> rfl

/-- A save is refused, finds the document invalid, or goes on to write it. -/
theorem save_cases (store : Store) (p : Persisted) (now : Instant) (fresh : ObjectId)
    (took : String) (s : Session) :
    (∃ e, store.checkSchema s.heap p.document = .error e ∧
      store.save p now fresh took s = ⟨.error e, p, store, s⟩) ∨
    ((s.validate p.document).1 = false ∧ ∃ later : Session,
      later.heap = (s.validate p.document).2.heap ∧
      store.save p now fresh took s = ⟨.ok false, p, store, later⟩) ∨
    (s.heap.documentIsA p.document store.schema = true ∧ (s.validate p.document).1 = true ∧
      store.save p now fresh took s = store.write p now fresh took (s.validate p.document).2) := by
  rw [save]
  cases hcheck : store.checkSchema s.heap p.document with
  | error e => exact Or.inl ⟨e, rfl, rfl⟩
  | ok _ =>
      have hisA : s.heap.documentIsA p.document store.schema = true := by
        by_contra hnot
        rw [checkSchema, if_neg hnot] at hcheck
        cases hcheck
      right
      obtain ⟨valid, later⟩ := s.validate p.document
      cases valid with
      | false => exact Or.inl ⟨rfl, _, heap_log .., rfl⟩
      | true => exact Or.inr ⟨hisA, rfl, rfl⟩

/-- A save changes nothing of the store but its collection. -/
theorem save_store (store : Store) (p : Persisted) (now : Instant) (fresh : ObjectId)
    (took : String) (s : Session) : ∃ collection,
    (store.save p now fresh took s).store = { store with collection := collection } := by
  rcases store.save_cases p now fresh took s with ⟨_, _, heq⟩ | ⟨_, _, _, heq⟩ | ⟨_, _, heq⟩
  · exact ⟨store.collection, by rw [heq]⟩
  · exact ⟨store.collection, by rw [heq]⟩
  · rw [heq, write]
    simp only
    split
    · split
      · exact ⟨store.collection, rfl⟩
      · exact ⟨_, rfl⟩
    · exact ⟨_, rfl⟩

theorem stamp_changes (hdecl : Declared types) {h : Heap} (hsound : h.Sound types) (r : DocRef)
    (field : String) (now : Instant) : Changes types 0 0 h (stamp h r field now) :=
  hsound.ready_zero.set_changes hdecl (Nat.zero_le _) field (.instant now)

theorem write_changes (hdecl : Declared types) {s : Session} (hsound : s.heap.Sound types)
    (store : Store) (p : Persisted) (now : Instant) (fresh : ObjectId) (took : String) :
    Changes types 0 0 s.heap (store.write p now fresh took s).session.heap := by
  have hmodified := stamp_changes hdecl hsound p.document store.config.modifiedField now
  rw [write]
  simp only
  split
  · split
    · exact hmodified
    · simpa only [heap_log] using hmodified
  · have hcreated := stamp_changes hdecl (hmodified.sound hdecl hsound) p.document
      store.config.createdField now
    simpa only [heap_log] using hmodified.trans hcreated

theorem save_changes (hdecl : Declared types) {s : Session} (hsound : s.heap.Sound types)
    (store : Store) (p : Persisted) (now : Instant) (fresh : ObjectId) (took : String) :
    Changes types 0 0 s.heap (store.save p now fresh took s).session.heap := by
  rw [save]
  split
  · exact .refl s.heap
  · have hvalidate := (s.validate_marked p.document).changes types
    split
    · next valid hresult =>
        rw [hresult] at hvalidate
        exact hvalidate.trans (write_changes hdecl (hvalidate.sound hdecl hsound) ..)
    · next invalid hresult =>
        rw [hresult] at hvalidate
        simpa only [heap_log] using hvalidate

theorem hydrate_changes (hdecl : Declared types) {h : Heap} (hready : h.Ready types n m)
    {store : Store} (hschema : store.schema ∈ types) (id : ObjectId) (data : Json.Object) :
    Changes types n m h (store.hydrate id data h).2 := by
  obtain ⟨hchanges, _⟩ := Schema.hydrate_runs hdecl hready data store.schema hschema
  rw [hydrate]
  split <;> next hresult => simpa only [hresult] using hchanges

theorem hydrateAll_changes (hdecl : Declared types) {store : Store}
    (hschema : store.schema ∈ types) (entries : List (ObjectId × Json.Object)) {h : Heap}
    (hready : h.Ready types n m) : Changes types n m h (store.hydrateAll h entries).2 := by
  induction entries generalizing h with
  | nil => exact .refl h
  | cons entry rest ih =>
      obtain ⟨id, data⟩ := entry
      have hone := hydrate_changes hdecl hready hschema id data
      rw [hydrateAll]
      split
      · next hresult => simpa only [hresult] using hone
      · next hresult =>
          rw [hresult] at hone
          have hrest := hone.trans (ih (hone.ready hdecl hready))
          split <;> next hlater => simpa only [hlater] using hrest

theorem find_changes (hdecl : Declared types) {s : Session} (hready : s.heap.Ready types n m)
    {store : Store} (hschema : store.schema ∈ types) (filter : Json.Object) (took : String) :
    Changes types n m s.heap (store.find filter took s).2.heap := by
  have hall := hydrateAll_changes hdecl hschema (store.collection.find filter) hready
  rw [find]
  split
  · next hresult => simpa only [hresult] using hall
  · next hresult => simpa only [hresult, heap_log] using hall

theorem findOne_changes (hdecl : Declared types) {s : Session} (hready : s.heap.Ready types n m)
    {store : Store} (hschema : store.schema ∈ types) (id : ObjectId) (took : String) :
    Changes types n m s.heap (store.findOne id took s).2.heap := by
  rw [findOne]
  split
  · simpa only [heap_log] using Changes.refl s.heap
  · next data _ =>
      have hone := hydrate_changes hdecl hready hschema id data
      rw [heap_log]
      split <;> next hresult => simpa only [hresult] using hone

theorem findOne_of_none {store : Store} {id : ObjectId} (hgone : store.collection.find? id = none)
    (took : String) (s : Session) : (store.findOne id took s).1 = .ok none := by
  rw [findOne]
  simp only [hgone]

/-- A document that is found is made of the data under its identifier. -/
theorem findOne_found {store : Store} {id : ObjectId} {took : String} {s later : Session}
    {loaded : Persisted} {before : Json.Object}
    (hfound : store.collection.find? id = some before)
    (hload : store.findOne id took s = (.ok (some loaded), later)) :
    loaded.id? = some id ∧
      store.schema.hydrate before s.heap = (.ok loaded.document, later.heap) := by
  rw [findOne] at hload
  simp only [hfound, hydrate, heap_log] at hload
  cases hrun : store.schema.hydrate before s.heap with
  | mk result made =>
      rw [hrun] at hload
      cases result with
      | error e => simp at hload
      | ok r =>
          simp only [Prod.mk.injEq, Except.ok.injEq, Option.some.injEq] at hload
          obtain ⟨rfl, rfl⟩ := hload
          exact ⟨rfl, rfl⟩

/-- What is made of the data under an identifier is found. -/
theorem findOne_of_hydrate {store : Store} {id : ObjectId} {data : Json.Object}
    (hfound : store.collection.find? id = some data) {r : DocRef} {h : Heap}
    (hrun : store.schema.hydrate data s.heap = (.ok r, h)) (took : String) :
    ∃ later, store.findOne id took s = (.ok (some ⟨r, some id⟩), later) ∧ later.heap = h := by
  simp only [findOne, hfound, hydrate, heap_log, hrun]
  exact ⟨_, rfl, rfl⟩

/-- A deletion changes nothing of the store but its collection. -/
theorem delete_store (store : Store) (p : Persisted) (took : String) (s : Session) :
    ∃ collection, (store.delete p took s).2.1 = { store with collection := collection } := by
  rw [delete]
  split
  · exact ⟨store.collection, rfl⟩
  · split
    · exact ⟨store.collection, rfl⟩
    · exact ⟨_, rfl⟩

theorem heap_delete (store : Store) (p : Persisted) (took : String) (s : Session) :
    (store.delete p took s).2.2.heap = s.heap := by
  rw [delete]
  split
  · rfl
  · split
    · rfl
    · simp only [heap_log]

end DocumentModel.Store
