/-
Assigning a field.

A value is converted to the kind of the field as far as that is possible, and stored even if it is
not.  Plain sequences refuse what is no sequence.  Embedded documents and lists are checked for
their type, and what does not fit leaves the field as it is.
-/
import DocumentModel.Flattening
import DocumentModel.Text.Blank

namespace DocumentModel

namespace Field

def written (h : Heap) : Value → String
  | .text s => s
  | .bool b => if b then "true" else "false"
  | .int n => toString n.toInt
  | .float x => Decimal.Layout.positional.format x
  | .instant t => Time.rfc3339 t
  | .objectId id => id.toHex
  | v => (h.toJson v).render

/-- A value as text, blanks at its ends removed. -/
def toText (h : Heap) : Value → Value
  | .null => .null
  | v => .text (Text.trim (written h v))

/-- Convert a value to the kind of the field, as far as possible. -/
def coerce (h : Heap) (f : Field) (v : Value) : Value :=
  match f.kind, v with
  | .float _, .int n => .float (Float.ofInt n.toInt)
  | .objectId, .text s => ((ObjectId.parse? s).map .objectId).getD (.text s)
  | .string _, v => toText h v
  | _, v => v

/-- Does a value count as missing? -/
def isAbsent (h : Heap) (f : Field) (v : Value) : Bool :=
  match f.kind, v with
  | _, .null => true
  | .string _, .text s => (Text.trim s).isEmpty
  | .array _ _, .array items => items.isEmpty
  | .list _, .list r => (h.items r).isEmpty
  | _, _ => false

end Field

namespace Heap

/-- Do all documents have the type `schema` or one that extends it?  If not, the first that does not
is at fault. -/
def checkTypes (h : Heap) (schema : Schema) : List DocRef → Except SchemaError Unit
  | [] => .ok ()
  | r :: rest =>
      if h.documentIsA r schema then checkTypes h schema rest
      else .error (.typeMismatch schema.name (h.documentType r))

/-- Give a list new contents.  Nothing changes unless every document has the type of the list. -/
def replaceItems (h : Heap) (r : ListRef) (items : List DocRef) : Except SchemaError Unit × Heap :=
  match h.list? r with
  | none => (.ok (), h)
  | some l =>
      match h.checkTypes l.schema items with
      | .ok () => (.ok (), h.putList r { l with items := items })
      | .error e => (.error e, h)

/-- Append a document of the right type to a list. -/
def push (h : Heap) (r : ListRef) (item : DocRef) : Except SchemaError Unit × Heap :=
  match h.list? r with
  | none => (.ok (), h)
  | some l =>
      match h.checkTypes l.schema [item] with
      | .ok () => (.ok (), h.putList r { l with items := l.items ++ [item] })
      | .error e => (.error e, h)

/-- Take the document at an index out of a list. -/
def removeAt (h : Heap) (r : ListRef) (index : Nat) : Option DocRef × Heap :=
  match h.list? r with
  | none => (none, h)
  | some l => (l.items[index]?, h.putList r { l with items := l.items.eraseIdx index })

/-- Empty a list. -/
def clear (h : Heap) (r : ListRef) : Heap :=
  match h.list? r with
  | none => h
  | some l => h.putList r { l with items := [] }

/-- A list of its own with the same documents. -/
def detach (h : Heap) (r : ListRef) : ListRef × Heap :=
  match h.list? r with
  | none => (r, h)
  | some l => h.addList l

end Heap

/-- What an assignment does to the stored value. -/
inductive Assignment where
  | store (v : Value)
  | keep
  /-- Store an empty sequence and remember that the value was refused. -/
  | reject

def Assignment.apply (a : Assignment) (slot : Slot) : Slot :=
  match a with
  | .store v => { slot with value := v, shared := false, rejected := false }
  | .keep => slot
  | .reject => { slot with value := .array [], shared := false, rejected := true }

namespace Heap

/-- The documents that a value offers to a list: those of another list, or a plain sequence of
nothing but documents.  The list itself offers nothing new. -/
def offered? (h : Heap) (current v : Value) : Option (List DocRef) :=
  match v with
  | .list r => if current.asList? = some r then none else some (h.items r)
  | .array items => Value.documents? items
  | _ => none

/-- Assign a list field: refill its own list, or make a new one if it has none. -/
def assignList (h : Heap) (schema : Schema) (current v : Value) : Assignment × Heap :=
  match h.offered? current v with
  | none => (.keep, h)
  | some documents =>
      match current with
      | .list own => (.keep, (h.replaceItems own documents).2)
      | _ =>
          match h.checkTypes schema documents with
          | .ok () =>
              let (r, h) := h.addList ⟨schema, documents⟩
              (.store (.list r), h)
          | .error _ => (.keep, h)

/-- What assigning `v` does to a field that holds `current`. -/
def assign (h : Heap) (f : Field) (current v : Value) : Assignment × Heap :=
  match f.kind with
  | .array _ _ =>
      match v with
      | .null => (.store .null, h)
      | .array items => (.store (.array items), h)
      | .list r => (.store (.array ((h.items r).map .document)), h)
      | _ => (.reject, h)
  | .embedded schema =>
      match v with
      | .null => (.store .null, h)
      | .document r => (if h.documentIsA r schema then .store (.document r) else .keep, h)
      | _ => (.keep, h)
  | .list schema => h.assignList schema current v
  | _ => (.store (f.coerce h v), h)

/-- What an assignment to a field of a document comes to, if it comes to an end (`set?`).  A default
that other documents share is never changed in place: the field counts as empty. -/
def set (h : Heap) (r : DocRef) (name : String) (v : Value) : Except SchemaError Unit × Heap :=
  match h.document? r with
  | none => (.ok (), h)
  | some d =>
      match d.schema.field? name, d.slot? name with
      | some f, some slot =>
          let current := if slot.shared then .null else slot.value
          let (a, h) := h.assign f current v
          (.ok (), h.putDocument r (d.putSlot (a.apply slot)))
      | _, _ => (.error (.unknownField d.schema.name name), h)

/-- The documents that are asked for their type, one after the other: all up to the first that has
not the type `schema`. -/
def asked (h : Heap) (schema : Schema) : List DocRef → List DocRef
  | [] => []
  | r :: rest => r :: if h.documentIsA r schema then asked h schema rest else []

/-- The documents that are asked for their type when a field that holds `current` is assigned. -/
def askedBy (h : Heap) (f : Field) (current v : Value) : List DocRef :=
  match f.kind with
  | .embedded _ => v.asDocument?.toList
  | .list schema =>
      let own? := current.asList?.bind h.list?
      match h.offered? current v with
      | none => []
      | some documents => h.asked ((own?.map (·.schema)).getD schema) documents
  | _ => []

/-- Can a field of the document `r` be assigned?  The document is held meanwhile, and nobody can
look into it: it must not be asked for its type, nor be part of what is written out as a text. -/
def canAssign (h : Heap) (r : DocRef) (f : Field) (current v : Value) : Bool :=
  match f.kind with
  | .string _ => h.canWrite [r] v
  | _ => decide (r ∉ h.askedBy f current v)

/-- Assign a field of a document.  There is no result if the document would have to be looked into
while it is held, or a value to be written out that has no end. -/
def set? (h : Heap) (r : DocRef) (name : String) (v : Value) :
    Option (Except SchemaError Unit × Heap) :=
  match h.document? r with
  | none => some (h.set r name v)
  | some d =>
      match d.schema.field? name, d.slot? name with
      | some f, some slot =>
          let current := if slot.shared then .null else slot.value
          if h.canAssign r f current v then some (h.set r name v) else none
      | _, _ => some (h.set r name v)

/-- A copy of a slot.  A list becomes a list of its own, unless it is a default that is shared. -/
def copySlot (h : Heap) (slot : Slot) : Slot × Heap :=
  match slot.value, slot.shared with
  | .list r, false =>
      let (own, h) := h.detach r
      ({ slot with value := .list own }, h)
  | _, _ => (slot, h)

def copySlots (h : Heap) : List Slot → List Slot × Heap
  | [] => ([], h)
  | slot :: rest =>
      let (slot, h) := h.copySlot slot
      let (rest, h) := copySlots h rest
      (slot :: rest, h)

/-- Copy a document.  The documents that it holds are not copied: both hold the same ones. -/
def clone (h : Heap) (r : DocRef) : DocRef × Heap :=
  match h.document? r with
  | none => (r, h)
  | some d =>
      let (slots, h) := h.copySlots d.slots
      h.addDocument { d with slots := slots }

end Heap

end DocumentModel
