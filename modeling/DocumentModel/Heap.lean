/-
Documents and typed lists in the heap.

Every document and every typed list has a place in the heap, and values refer to them by place.  A
document that no value refers to is simply one that nobody shares.  References are only handed out
for what has been put into the heap, and nothing is ever taken out of it.
-/
import DocumentModel.Schema
import DocumentModel.Value.Extended

namespace DocumentModel

/-- What a document holds for one field. -/
structure Slot where
  name : String
  value : Value
  /-- Does a list field still hold its declared default, which other documents may share? -/
  shared : Bool
  /-- Was the last assignment refused for its structure? -/
  rejected : Bool

/-- A document: its type, a slot for each field, and the errors of its last validation. -/
structure Document where
  schema : Schema
  slots : List Slot
  errors : Errors

namespace Document

def slot? (d : Document) (name : String) : Option Slot :=
  d.slots.find? fun s => s.name = name

def value? (d : Document) (name : String) : Option Value :=
  (d.slot? name).map (·.value)

/-- The stored value of a field, or null if there is no such field. -/
def value (d : Document) (name : String) : Value :=
  (d.value? name).getD .null

/-- Put a slot in the place of the one that has its name. -/
def putSlot (d : Document) (slot : Slot) : Document :=
  { d with slots := d.slots.map fun s => if s.name = slot.name then slot else s }

theorem slot?_putSlot_self (d : Document) (slot : Slot) (h : (d.slot? slot.name).isSome = true) :
    (d.putSlot slot).slot? slot.name = some slot := by
  obtain ⟨schema, slots, errors⟩ := d
  simp only [slot?, putSlot] at h ⊢
  induction slots with
  | nil => simp at h
  | cons s rest ih =>
      by_cases hs : s.name = slot.name
      · simp [hs]
      · simp only [List.find?_cons, hs, decide_false, List.map_cons, ↓reduceIte] at h ⊢
        exact ih h

theorem slot?_putSlot_of_ne (d : Document) (slot : Slot) {name : String}
    (hne : slot.name ≠ name) : (d.putSlot slot).slot? name = d.slot? name := by
  obtain ⟨schema, slots, errors⟩ := d
  simp only [slot?, putSlot]
  induction slots with
  | nil => rfl
  | cons s rest ih =>
      by_cases hs : s.name = slot.name
      · simp only [List.map_cons, hs, ↓reduceIte, List.find?_cons, hne, decide_false]
        exact ih
      · simp only [List.map_cons, hs, ↓reduceIte, List.find?_cons]
        rw [ih]

end Document

/-- A typed list: its element type and its documents. -/
structure DocumentList where
  schema : Schema
  items : List DocRef

/-- All documents and lists, and the counters of default factories. -/
structure Heap where
  documents : List Document
  lists : List DocumentList
  counters : List Int64

namespace Heap

def empty : Heap := ⟨[], [], []⟩

def document? (h : Heap) (r : DocRef) : Option Document :=
  h.documents[r.index]?

def list? (h : Heap) (r : ListRef) : Option DocumentList :=
  h.lists[r.index]?

def addDocument (h : Heap) (d : Document) : DocRef × Heap :=
  (⟨h.documents.length⟩, { h with documents := h.documents ++ [d] })

def addList (h : Heap) (l : DocumentList) : ListRef × Heap :=
  (⟨h.lists.length⟩, { h with lists := h.lists ++ [l] })

def putDocument (h : Heap) (r : DocRef) (d : Document) : Heap :=
  { h with documents := h.documents.set r.index d }

def putList (h : Heap) (r : ListRef) (l : DocumentList) : Heap :=
  { h with lists := h.lists.set r.index l }

theorem document?_addDocument_self (h : Heap) (d : Document) :
    (h.addDocument d).2.document? (h.addDocument d).1 = some d := by
  simp [addDocument, document?]

/-- A new document leaves those that are there alone. -/
theorem document?_addDocument_of_isSome (h : Heap) (d : Document) {r : DocRef}
    (hr : (h.document? r).isSome = true) :
    (h.addDocument d).2.document? r = h.document? r := by
  have hlt : r.index < h.documents.length := by
    simpa [document?] using hr
  exact List.getElem?_append_left hlt

theorem list?_addList_self (h : Heap) (l : DocumentList) :
    (h.addList l).2.list? (h.addList l).1 = some l := by
  simp [addList, list?]

/-- A new list leaves those that are there alone. -/
theorem list?_addList_of_isSome (h : Heap) (l : DocumentList) {r : ListRef}
    (hr : (h.list? r).isSome = true) : (h.addList l).2.list? r = h.list? r := by
  have hlt : r.index < h.lists.length := by
    simpa [list?] using hr
  exact List.getElem?_append_left hlt

theorem document?_putDocument_self (h : Heap) {r : DocRef} (d : Document)
    (hr : (h.document? r).isSome = true) : (h.putDocument r d).document? r = some d := by
  have hlt : r.index < h.documents.length := by
    simpa [document?] using hr
  simp [putDocument, document?, hlt]

theorem document?_putDocument_of_ne (h : Heap) {r s : DocRef} (d : Document) (hne : r ≠ s) :
    (h.putDocument r d).document? s = h.document? s := by
  have hindex : r.index ≠ s.index := fun heq => hne (by cases r; cases s; simp_all)
  simp [putDocument, document?, hindex]

theorem list?_putList_self (h : Heap) {r : ListRef} (l : DocumentList)
    (hr : (h.list? r).isSome = true) : (h.putList r l).list? r = some l := by
  have hlt : r.index < h.lists.length := by
    simpa [list?] using hr
  simp [putList, list?, hlt]

theorem list?_putList_of_ne (h : Heap) {r s : ListRef} (l : DocumentList) (hne : r ≠ s) :
    (h.putList r l).list? s = h.list? s := by
  have hindex : r.index ≠ s.index := fun heq => hne (by cases r; cases s; simp_all)
  simp [putList, list?, hindex]

/-- A new counter that starts at `n`. -/
def addCounter (h : Heap) (n : Int64) : CounterRef × Heap :=
  (⟨h.counters.length⟩, { h with counters := h.counters ++ [n] })

/-- The number in a counter, which then goes up by one. -/
def count (h : Heap) (r : CounterRef) : Int64 × Heap :=
  let n := (h.counters[r.index]?).getD 0
  (n, { h with counters := h.counters.set r.index (n + 1) })

def items (h : Heap) (r : ListRef) : List DocRef :=
  ((h.list? r).map (·.items)).getD []

/-- What documents and lists hold, the errors of documents apart. -/
def contents (h : Heap) : Contents where
  values r := ((h.document? r).map fun d => d.slots.map fun s => (s.name, s.value)).getD []
  items := h.items

/-- What one sees who looks at some of the documents. -/
def contentsOf (h : Heap) (looks : Contents → List DocRef) : Contents :=
  h.contents.only (looks h.contents)

/-- The errors that a document has. -/
def errorsOf (h : Heap) (r : DocRef) : Errors :=
  ((h.document? r).map (·.errors)).getD .empty

/-- Is the type of a document `schema` or one that extends it? -/
def documentIsA (h : Heap) (r : DocRef) (schema : Schema) : Bool :=
  match h.document? r with
  | some d => d.schema.isA schema
  | none => false

def documentType (h : Heap) (r : DocRef) : String :=
  ((h.document? r).map (·.schema.name)).getD ""

/-- What a value is, in the words of error messages. -/
def typeName (h : Heap) : Value → String
  | .null => "null"
  | .bool _ => "bool"
  | .int _ => "int"
  | .float _ => "float"
  | .text _ => "text"
  | .instant _ => "datetime"
  | .objectId _ => "object id"
  | .array _ => "array"
  | .map _ => "map"
  | .document r => h.documentType r
  | .list r => "list of " ++ ((h.list? r).map (·.schema.name)).getD ""

end Heap

/-- An operation on the heap that a fault may stop.  What was done before the fault stays done. -/
abbrev Build := ExceptT SchemaError (StateM Heap)

end DocumentModel
