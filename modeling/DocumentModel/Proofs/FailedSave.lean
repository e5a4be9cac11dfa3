/-
What a save leaves behind that does not succeed.

The collection and the identifier of the document stay what they were, and so does all that is
stored, errors apart.  Only the save of a document that has vanished from the collection goes one
step further: the time has been put into its field by the time the entry is missed.
-/
import DocumentModel.Proofs.SaveTimes

namespace DocumentModel

theorem Heap.cleared_putDocument (h : Heap) (r : DocRef) (d : Document) :
    (h.putDocument r d).cleared = h.cleared.putDocument r d.cleared := by
  rw [cleared, cleared, putDocument, putDocument, List.map_set]

theorem Document.cleared_timed (now : Instant) (d : Document) (name : String) :
    (d.timed now name).cleared = d.cleared.timed now name := by
  have hfield : d.cleared.schema.field? name = d.schema.field? name := rfl
  have hslot : d.cleared.slot? name = d.slot? name := rfl
  rw [timed, timed, hfield, hslot]
  cases d.schema.field? name with
  | none => rfl
  | some f => cases d.slot? name <;> rfl

namespace Store

open Heap

theorem checkSchema_error {store : Store} {h : Heap} {r : DocRef} {e : StoreError}
    (herror : store.checkSchema h r = .error e) :
    e = .schemaMismatch store.schema.name (h.documentType r) := by
  rw [checkSchema] at herror
  split at herror
  · cases herror
  · exact (Except.error.inj herror).symm

/-- A write fails only for want of an entry to update, and writes nothing then. -/
theorem write_fails {store : Store} {p : Persisted} {now : Instant} {fresh : ObjectId}
    {took : String} {s : Session} (hfailed : (store.write p now fresh took s).result ≠ .ok true) :
    ∃ id, p.id? = some id ∧ store.collection.find? id = none ∧
      store.write p now fresh took s = ⟨.error (.notFound id.toHex), p, store,
        { s with heap := stamp s.heap p.document store.config.modifiedField now }⟩ := by
  obtain ⟨r, id?⟩ := p
  cases id? with
  | none => exact absurd rfl hfailed
  | some id =>
      cases hfound : store.collection.find? id with
      | none => exact ⟨id, rfl, hfound, by simp [write, Collection.update, hfound]⟩
      | some data => simp [write, Collection.update, hfound] at hfailed

end Store

/-- A save that does not succeed leaves the collection and the identifier as they were.  If the
document is of another type or invalid, all that is stored is as it was, errors apart.  Otherwise the
identifier is not in the collection any more, and the time of the save is in its field. -/
theorem failed_save {store : Store} {p : Persisted} {now : Instant} {fresh : ObjectId}
    {took : String} {s : Session} {saved : Store.Saved}
    (hsaved : store.save p now fresh took s = saved) (hfailed : saved.result ≠ .ok true) :
    saved.store = store ∧ saved.document = p ∧
      ((saved.session.heap.cleared = s.heap.cleared ∧
        (saved.result = .ok false ∨ saved.result = .error
          (.schemaMismatch store.schema.name (s.heap.documentType p.document)))) ∨
      ∃ id d, p.id? = some id ∧ store.collection.find? id = none ∧
        saved.result = .error (.notFound id.toHex) ∧ s.heap.document? p.document = some d ∧
        saved.session.heap.cleared = (s.heap.putDocument p.document
          (d.timed now store.config.modifiedField)).cleared) := by
  subst hsaved
  have hmarked := s.validate_marked p.document
  rcases store.save_cases p now fresh took s with
    ⟨e, herror, heq⟩ | ⟨_, later, hlater, heq⟩ | ⟨hisA, _, heq⟩
  · rw [heq, Store.checkSchema_error herror]
    exact ⟨rfl, rfl, Or.inl ⟨rfl, Or.inr rfl⟩⟩
  · rw [heq]
    exact ⟨rfl, rfl, Or.inl ⟨hlater ▸ hmarked.cleared_eq, Or.inl rfl⟩⟩
  · rw [heq] at hfailed ⊢
    obtain ⟨id, hid, hgone, hwrite⟩ := Store.write_fails hfailed
    obtain ⟨d, hd, _⟩ := Heap.documentIsA_iff.mp hisA
    obtain ⟨e, he⟩ := hmarked.document? hd
    rw [hwrite]
    refine ⟨rfl, rfl, Or.inr ⟨id, d, hid, hgone, rfl, hd, ?_⟩⟩
    simp only
    rw [Heap.stamp_eq he, Heap.cleared_putDocument, Heap.cleared_putDocument, hmarked.cleared_eq,
      Document.cleared_timed, Document.cleared_timed]
    rfl

/-! A visit that is removed from the collection behind its back. -/

def lostStore : Store :=
  { visitStore "seen" with
    collection := ((savedVisit "seen").store.collection.remove ⟨Vector.replicate 24 7⟩).2 }

def lostVisit : Store.Saved :=
  lostStore.save (savedVisit "seen").document ⟨1700000060, 0⟩ ⟨Vector.replicate 24 8⟩ "0"
    (savedVisit "seen").session

theorem failed_save_lost :
    lostVisit.result ≠ .ok true ∧ lostVisit.store.collection.entries = [] ∧
      lostVisit.document = ⟨⟨0⟩, some ⟨Vector.replicate 24 7⟩⟩ := by
  have hfailed : lostVisit.result ≠ .ok true := fun hok => by cases hok
  have hsaved : lostStore.save (savedVisit "seen").document ⟨1700000060, 0⟩
      ⟨Vector.replicate 24 8⟩ "0" (savedVisit "seen").session = lostVisit := rfl
  obtain ⟨hstore, hdocument, _⟩ := failed_save hsaved hfailed
  exact ⟨hfailed, by rw [hstore]; rfl, hdocument⟩

/-- The save fails, and the document has another time than before. -/
theorem failed_save_changes_time :
    lostVisit.result = .error (.notFound (ObjectId.toHex ⟨Vector.replicate 24 7⟩)) ∧
      ((savedVisit "seen").session.heap.document? ⟨0⟩).map (·.value "seen") =
        some (.instant ⟨1700000000, 0⟩) ∧
      (lostVisit.session.heap.document? ⟨0⟩).map (·.value "seen") =
        some (.instant ⟨1700000060, 0⟩) :=
  ⟨rfl, rfl, rfl⟩

end DocumentModel
