/-
Stores.

A store keeps the documents of one type in a collection.  A document is validated before every write
and is not written if it is invalid then.  The time of the first save and the time of every save go
into the fields that the configuration names, if the type has them, after validation.
-/
import DocumentModel.Collection
import DocumentModel.Hydration
import DocumentModel.Store.Config
import DocumentModel.Validation.Visits

namespace DocumentModel

/-- Why a store cannot do what it is asked to. -/
inductive StoreError where
  | schema (e : SchemaError)
  /-- A configuration that cannot be read. -/
  | serialization
  /-- Documents of an embedded type are not stored on their own. -/
  | notPersistable (schema : String)
  | schemaMismatch (expected found : String)
  | invalidId (text : String)
  | notFound (id : String)
deriving DecidableEq, Repr

namespace StoreError

def message : StoreError → String
  | schema e => e.message
  | serialization => "Serialization error"
  | notPersistable name =>
      "Record type " ++ name ++ " is embedded and cannot be stored on its own"
  | schemaMismatch expected found => "Store for " ++ expected ++ " cannot hold a " ++ found
  | invalidId text => "Invalid document id: " ++ text
  | notFound id => "Document not found: " ++ id

end StoreError

/-- A document and its identifier in the collection, once it has one. -/
structure Persisted where
  document : DocRef
  id? : Option ObjectId
deriving DecidableEq

namespace Persisted

/-- A document that has not been saved. -/
def ofDocument (r : DocRef) : Persisted := ⟨r, none⟩

def isNew (p : Persisted) : Bool :=
  p.id?.isNone

end Persisted

/-- A collection for the documents of one type. -/
structure Store where
  schema : Schema
  name : String
  collection : Collection
  config : StoreConfig

namespace Store

/-- A store with an empty collection. -/
def create? (schema : Schema) (name : String) (config : StoreConfig) : Except StoreError Store :=
  if schema.isEmbedded then .error (.notPersistable schema.name)
  else .ok ⟨schema, name, .empty, config⟩

/-- Log an event of the store, unless the configuration says not to. -/
def log (store : Store) (s : Session) (e : Event) (fields : List (String × String)) : Session :=
  if store.config.logOperations then
    s.log e ([("collection", store.name), ("schema", store.schema.name)] ++ fields)
  else s

/-- Is a document of the store's type, or of one that extends it? -/
def checkSchema (store : Store) (h : Heap) (r : DocRef) : Except StoreError Unit :=
  if h.documentIsA r store.schema then .ok ()
  else .error (.schemaMismatch store.schema.name (h.documentType r))

/-- A new document of the store's type. -/
def newDocument (store : Store) : Build Persisted := do
  return .ofDocument (← store.schema.instantiate)

/-- Put a time into a field, if the document has it. -/
def stamp (h : Heap) (r : DocRef) (field : String) (now : Instant) : Heap :=
  (h.set r field (.instant now)).2

/-- What a save comes to. -/
structure Saved where
  /-- Was the document written? -/
  result : Except StoreError Bool
  document : Persisted
  store : Store
  session : Session

/-- Write a valid document: update the data under its identifier, or insert it under `fresh`.
`took` is the time that the operation took, in milliseconds, as text. -/
def write (store : Store) (p : Persisted) (now : Instant) (fresh : ObjectId) (took : String)
    (s : Session) : Saved :=
  let heap := stamp s.heap p.document store.config.modifiedField now
  match p.id? with
  | some id =>
      match store.collection.update id (heap.data p.document) with
      | (false, _) => ⟨.error (.notFound id.toHex), p, store, { s with heap := heap }⟩
      | (true, collection) =>
          let s := store.log { s with heap := heap } .updated
            [("duration_ms", took), ("id", id.toHex)]
          ⟨.ok true, p, { store with collection := collection }, s⟩
  | none =>
      let heap := stamp heap p.document store.config.createdField now
      let collection := store.collection.insert fresh (heap.data p.document)
      let s := store.log { s with heap := heap } .inserted
        [("duration_ms", took), ("id", fresh.toHex)]
      ⟨.ok true, { p with id? := some fresh }, { store with collection := collection }, s⟩

/-- What it comes to to validate a document and write it if it is valid (`save?`). -/
def save (store : Store) (p : Persisted) (now : Instant) (fresh : ObjectId) (took : String)
    (s : Session) : Saved :=
  match store.checkSchema s.heap p.document with
  | .error e => ⟨.error e, p, store, s⟩
  | .ok () =>
      match s.validate p.document with
      | (true, s) => store.write p now fresh took s
      | (false, s) =>
          let count := ((s.heap.document? p.document).map (·.errors.count)).getD 0
          let s := store.log s .rejected [("error_count", toString count)]
          ⟨.ok false, p, store, s⟩

/-- Save a document.  There is no result if its validation has none, or if the document has no data
to be written. -/
def save? (store : Store) (p : Persisted) (now : Instant) (fresh : ObjectId) (took : String)
    (s : Session) : Option Saved :=
  let saved := store.save p now fresh took s
  match store.checkSchema s.heap p.document with
  | .error _ => some saved
  | .ok () =>
      match s.validate? p.document with
      | none => none
      | some (false, _) => some saved
      -- what is written is the document as the save leaves it
      | some (true, _) => (saved.session.heap.data? p.document).map fun _ => saved

/-- Make the document that an entry of the collection describes. -/
def hydrate (store : Store) (id : ObjectId) (data : Json.Object) (h : Heap) :
    Except StoreError Persisted × Heap :=
  match store.schema.hydrate data h with
  | (.ok r, h) => (.ok ⟨r, some id⟩, h)
  | (.error e, h) => (.error (.schema e), h)

/-- Make the documents that some entries describe, up to the first fault. -/
def hydrateAll (store : Store) (h : Heap) :
    List (ObjectId × Json.Object) → Except StoreError (List Persisted) × Heap
  | [] => (.ok [], h)
  | (id, data) :: rest =>
      match store.hydrate id data h with
      | (.error e, h) => (.error e, h)
      | (.ok p, h) =>
          match hydrateAll store h rest with
          | (.error e, h) => (.error e, h)
          | (.ok ps, h) => (.ok (p :: ps), h)

/-- The documents that match a filter, in the order of the collection. -/
def find (store : Store) (filter : Json.Object) (took : String) (s : Session) :
    Except StoreError (List Persisted) × Session :=
  match store.hydrateAll s.heap (store.collection.find filter) with
  | (.error e, h) => (.error e, { s with heap := h })
  | (.ok ps, h) =>
      (.ok ps, store.log { s with heap := h } .found
        [("duration_ms", took), ("found", toString ps.length)])

def findAll (store : Store) (took : String) (s : Session) :
    Except StoreError (List Persisted) × Session :=
  store.find [] took s

/-- The document under an identifier. -/
def findOne (store : Store) (id : ObjectId) (took : String) (s : Session) :
    Except StoreError (Option Persisted) × Session :=
  let found := store.collection.find? id
  let s := store.log s .found
    [("duration_ms", took), ("found", if found.isSome then "1" else "0"), ("id", id.toHex)]
  match found with
  | none => (.ok none, s)
  | some data =>
      match store.hydrate id data s.heap with
      | (.ok p, h) => (.ok (some p), { s with heap := h })
      | (.error e, h) => (.error e, { s with heap := h })

/-- The document under an identifier that is given as text. -/
def findById (store : Store) (text : String) (took : String) (s : Session) :
    Except StoreError (Option Persisted) × Session :=
  match ObjectId.parse? text with
  | some id => store.findOne id took s
  | none => (.error (.invalidId text), s)

/-- Remove a document from the collection.  Says whether it was there. -/
def delete (store : Store) (p : Persisted) (took : String) (s : Session) :
    Except StoreError Bool × Store × Session :=
  match store.checkSchema s.heap p.document with
  | .error e => (.error e, store, s)
  | .ok () =>
      match p.id? with
      | none => (.ok false, store, s)
      | some id =>
          let (removed, collection) := store.collection.remove id
          (.ok removed, { store with collection := collection },
            store.log s .deleted [("duration_ms", took), ("id", id.toHex)])

end Store

end DocumentModel
