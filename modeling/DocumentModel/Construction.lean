/-
New documents.

Every field starts with its default: the declared one, converted to the kind of the field, or else
null, an empty sequence or an empty list.  A default that does not suit its field makes construction
fail; nothing else does.
-/
import DocumentModel.Assignment

namespace DocumentModel

namespace Field

/-- Does a value have the kind of a scalar or plain sequence field? -/
def holdsKind (f : Field) (v : Value) : Bool :=
  match f.kind, v with
  | .boolean, .bool _ => true
  | .dateTime, .instant _ => true
  | .float _, .float _ => true
  | .integer _, .int _ => true
  | .objectId, .objectId _ => true
  | .string _, .text _ => true
  | .array _ _, .array _ => true
  | _, _ => false

/-- Is a text outside the choices of the field? -/
def violatesChoices (f : Field) (v : Value) : Bool :=
  match f.kind, v with
  | .string rules, .text s =>
      match rules.choices? with
      | some choices => !choices.contains s
      | none => false
  | _, _ => false

end Field

/-- What is recorded for a text outside its choices. -/
def notInChoices : String := "value must be in list"

namespace Heap

/-- The fault of a default that does not suit its field. -/
def unsuited (h : Heap) (f : Field) (expected : String) (v : Value) : SchemaError :=
  .invalidDefault f.name expected (h.typeName v)

/-- The first value of a list field whose default is `v`: that list itself if its type fits, or a
new list of the documents in a sequence. -/
def initialList (h : Heap) (f : Field) (schema : Schema) (v : Value) :
    Except SchemaError Value × Heap :=
  let fresh (documents : List DocRef) : Except SchemaError Value × Heap :=
    match h.checkTypes schema documents with
    | .ok () =>
        let (r, h) := h.addList ⟨schema, documents⟩
        (.ok (.list r), h)
    | .error (.typeMismatch expected found) => (.error (.invalidDefault f.name expected found), h)
    | .error e => (.error e, h)
  match v with
  | .null => fresh []
  | .list r =>
      match h.list? r with
      | some l =>
          if l.schema.isA schema then (.ok v, h) else (.error (h.unsuited f schema.name v), h)
      | none => (.error (h.unsuited f schema.name v), h)
  | .array items =>
      match Value.documents? items with
      | some documents => fresh documents
      | none => (.error (h.unsuited f schema.name v), h)
  | _ => (.error (h.unsuited f schema.name v), h)

/-- The first value of a field whose default is `v`. -/
def initialValue (h : Heap) (f : Field) (v : Value) : Except SchemaError Value × Heap :=
  match f.kind with
  | .embedded schema =>
      match v with
      | .null => (.ok .null, h)
      | .document r =>
          (if h.documentIsA r schema then .ok v else .error (h.unsuited f schema.name v), h)
      | _ => (.error (h.unsuited f schema.name v), h)
  | .list schema => h.initialList f schema v
  | _ =>
      let stored := f.coerce h v
      (if stored.isNull || f.holdsKind stored then .ok stored
        else .error (h.unsuited f f.kind.name stored), h)

/-- The value of a field without a declared default. -/
def impliedDefault (h : Heap) (kind : Kind) : Value × Heap :=
  match kind with
  | .array _ _ => (.array [], h)
  | .list schema =>
      let (r, h) := h.addList ⟨schema, []⟩
      (.list r, h)
  | _ => (.null, h)

def setAll (h : Heap) (r : DocRef) : List (String × Value) → Except SchemaError Unit × Heap
  | [] => (.ok (), h)
  | (name, v) :: rest =>
      match h.set r name v with
      | (.ok (), h) => setAll h r rest
      | (.error e, h) => (.error e, h)

/-- Record an error for each name in turn whose field now holds a text outside its choices. -/
def checkChoices (d : Document) : List String → Document
  | [] => d
  | name :: rest =>
      match d.schema.field? name with
      | some f =>
          if f.violatesChoices (d.value name) then
            checkChoices { d with errors := d.errors.add name notInChoices } rest
          else checkChoices d rest
      | none => checkChoices d rest

/-- Assign several fields of a new document, and look at the choices of the fields assigned. -/
def assignGiven (h : Heap) (r : DocRef) (values : List (String × Value)) :
    Except SchemaError Unit × Heap :=
  match h.setAll r values with
  | (.error e, h) => (.error e, h)
  | (.ok (), h) =>
      match h.document? r with
      | some d => (.ok (), h.putDocument r (checkChoices d (values.map (·.1))))
      | none => (.ok (), h)

end Heap

mutual

/-- Make a document of a type.  Its first unsuitable default is the fault. -/
def Schema.instantiate (s : Schema) : Build DocRef :=
  match s with
  | ⟨id, name, role, parent?, fields⟩ => do
      let slots ← Field.initialSlots fields
      fun h => let (r, h) := h.addDocument ⟨⟨id, name, role, parent?, fields⟩, slots, .empty⟩
        (.ok r, h)
termination_by structural s

/-- The slots of a new document. -/
def Field.initialSlots (fields : List Field) : Build (List Slot) :=
  match fields with
  | [] => return []
  | f :: rest => do
      let slot ← f.initialSlot
      let slots ← Field.initialSlots rest
      return slot :: slots
termination_by structural fields

/-- The slot of a field in a new document.  A list field counts as sharing any declared default. -/
def Field.initialSlot (f : Field) : Build Slot :=
  match f with
  | ⟨name, required, default?, kind⟩ => do
      let v ← match default? with
        | some d => d.produce
        | none => fun h => let (v, h) := h.impliedDefault kind
            (.ok v, h)
      let v ← fun h => h.initialValue ⟨name, required, default?, kind⟩ v
      return ⟨name, v, kind.isList && default?.isSome, false⟩
termination_by structural f

/-- The value of a declared default.  A factory makes a value in any case: one whose recipe cannot
be followed is one that makes null. -/
def Default.produce (d : Default) : Build Value :=
  match d with
  | .value v => return v
  | .factory recipe => fun h =>
      match recipe.make h with
      | (.ok v, h) => (.ok v, h)
      | (.error _, h) => (.ok .null, h)
termination_by structural d

/-- Follow a recipe. -/
def Recipe.make (r : Recipe) : Build Value :=
  match r with
  | .plain v => return v
  | .counter ref => fun h => let (n, h) := h.count ref
      (.ok (.int n), h)
  | .array items => do return .array (← Recipe.makeAll items)
  | .map entries => do return Value.mapOf (← Recipe.makeEntries entries)
  | .document schema values => do
      let values ← Recipe.makeEntries values
      let ref ← schema.instantiate
      fun h => h.assignGiven ref values
      return .document ref
  | .list schema items => do
      let ref ← fun h => let (ref, h) := h.addList ⟨schema, []⟩
        (.ok ref, h)
      Recipe.pushAll schema.name ref items
      return .list ref
termination_by structural r

def Recipe.makeAll (recipes : List Recipe) : Build (List Value) :=
  match recipes with
  | [] => return []
  | r :: rest => do
      let v ← r.make
      let values ← Recipe.makeAll rest
      return v :: values
termination_by structural recipes

def Recipe.makeEntries (entries : List (String × Recipe)) : Build (List (String × Value)) :=
  match entries with
  | [] => return []
  | (key, r) :: rest => do
      let v ← r.make
      let values ← Recipe.makeEntries rest
      return (key, v) :: values
termination_by structural entries

/-- Follow recipes and push the documents that they make; anything else is a fault. -/
def Recipe.pushAll (expected : String) (list : ListRef) (recipes : List Recipe) : Build Unit :=
  match recipes with
  | [] => return ()
  | r :: rest => do
      let v ← r.make
      match v with
      | .document item => fun h => h.push list item
      | v => fun h => (.error (.typeMismatch expected (h.typeName v)), h)
      Recipe.pushAll expected list rest
termination_by structural recipes

end

namespace Field

/-- The default of a field as it is declared, not yet converted. -/
def defaultValue (f : Field) : Build Value :=
  match f.default? with
  | some d => d.produce
  | none => fun h => let (v, h) := h.impliedDefault f.kind
      (.ok v, h)

end Field

namespace Schema

/-- Make a document and assign some of its fields.  A text outside its choices is recorded in the
errors of the new document. -/
def withValues (s : Schema) (values : List (String × Value)) : Build DocRef := do
  let r ← s.instantiate
  fun h => h.assignGiven r values
  return r

end Schema

end DocumentModel
