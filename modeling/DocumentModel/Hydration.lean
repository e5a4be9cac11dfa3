/-
Documents from plain JSON.

A new document is made and its fields are assigned from the members of the same name.  Objects and
sequences under embedded and list fields become documents of the declared type; everything else is
read as a value.  Members without a field count for nothing, nor do items of a list that are no
objects.
-/
import DocumentModel.Construction

namespace DocumentModel

namespace Heap

/-- Put a list into a field directly.  A default that was shared is thereby left alone. -/
def installList (h : Heap) (r : DocRef) (name : String) (list : ListRef) : Heap :=
  match h.document? r with
  | none => h
  | some d =>
      match d.slot? name with
      | none => h
      | some slot =>
          h.putDocument r (d.putSlot { slot with value := .list list, shared := false })

end Heap

mutual

/-- Make a document of a type from the members of an object. -/
def Schema.hydrate (s : Schema) (data : Json.Object) : Build DocRef :=
  match s with
  | ⟨id, name, role, parent?, fields⟩ => do
      let r ← Schema.instantiate ⟨id, name, role, parent?, fields⟩
      Field.hydrateAll r fields data
      return r
termination_by structural s

def Field.hydrateAll (r : DocRef) (fields : List Field) (data : Json.Object) : Build Unit :=
  match fields with
  | [] => return ()
  | f :: rest => do
      f.hydrate r data
      Field.hydrateAll r rest data
termination_by structural fields

/-- Fill one field of a document, if there is a member for it. -/
def Field.hydrate (r : DocRef) (f : Field) (data : Json.Object) : Build Unit :=
  match f with
  | ⟨name, _, _, kind⟩ =>
      match data.get? name with
      | none => return ()
      | some json => kind.hydrate r name json
termination_by structural f

/-- Fill a field of a given kind from some JSON. -/
def Kind.hydrate (r : DocRef) (name : String) (kind : Kind) (json : Json) : Build Unit :=
  match kind with
  | .embedded schema =>
      match json with
      | .obj nested => do
          let inner ← schema.hydrate nested
          fun h => h.set r name (.document inner)
      | json => fun h => h.set r name (Value.ofJson json)
  | .list schema =>
      match json with
      | .arr items => do
          let list ← fun h => let (list, h) := h.addList ⟨schema, []⟩
            (.ok list, h)
          items.forM fun item =>
            match item with
            | .obj nested => do
                let inner ← schema.hydrate nested
                fun h => h.push list inner
            | _ => return ()
          fun h => (.ok (), h.installList r name list)
      | json => fun h => h.set r name (Value.ofJson json)
  | _ => fun h => h.set r name (Value.ofJson json)
termination_by structural kind

end

end DocumentModel
