/-
Documents as plain JSON.

A document flattens to one member per field, in the order of declaration; the documents that it
holds flatten along with it.  A document that comes back to itself cannot be flattened: to look into
what it holds has no end.
-/
import DocumentModel.Heap
import DocumentModel.Json.Printer

namespace DocumentModel

namespace Value

mutual

/-- The documents that a value refers to, those of its lists included. -/
def handles (items : ListRef → List DocRef) : Value → List DocRef
  | .array values => itemHandles items values
  | .map entries => entryHandles items entries
  | .document r => [r]
  | .list l => items l
  | _ => []

def itemHandles (items : ListRef → List DocRef) : List Value → List DocRef
  | [] => []
  | v :: rest => handles items v ++ itemHandles items rest

def entryHandles (items : ListRef → List DocRef) : List (String × Value) → List DocRef
  | [] => []
  | (_, v) :: rest => handles items v ++ entryHandles items rest

end

end Value

namespace Heap

/-- The data of a document whose documents nest less than `depth` deep.  Deeper ones are cut off. -/
def dataAt (h : Heap) : (depth : Nat) → DocRef → Json.Object
  | 0, _ => []
  | depth + 1, r =>
      match h.document? r with
      | none => []
      | some d =>
          d.schema.fields.map fun f =>
            (f.name, (d.value f.name).toJsonWith
              (fun inner => .obj (h.dataAt depth inner))
              (fun list => .arr ((h.items list).map fun inner => .obj (h.dataAt depth inner))))

/-- The data of a document.  No chain of documents, each holding the next, is longer than the number
of documents, unless it comes back to where it was: then there is no data, and this is where it was
cut off (`data?`). -/
def data (h : Heap) (r : DocRef) : Json.Object :=
  h.dataAt h.documents.length r

def listData (h : Heap) (r : ListRef) : List Json :=
  (h.items r).map fun inner => .obj (h.data inner)

def toJson (h : Heap) (v : Value) : Json :=
  v.toJsonWith (fun r => .obj (h.data r)) (fun r => .arr (h.listData r))

/-- Does it come to an end to look into a document, and into those that it holds in turn, less than
`depth` deep?  Documents that are `held` by somebody else cannot be looked into. -/
def endsAt (h : Heap) (held : List DocRef) : (depth : Nat) → DocRef → Bool
  | 0, r => decide (r ∉ held) && (h.document? r).isNone
  | depth + 1, r =>
      decide (r ∉ held) &&
        match h.document? r with
        | none => true
        | some d =>
            d.schema.fields.all fun f =>
              ((d.value f.name).handles h.items).all (h.endsAt held depth)

/-- Can a value be written out while some documents are held? -/
def canWrite (h : Heap) (held : List DocRef) (v : Value) : Bool :=
  (v.handles h.items).all (h.endsAt held h.documents.length)

/-- The data of a document, or nothing if the document comes back to itself and flattening it has no
end. -/
def data? (h : Heap) (r : DocRef) : Option Json.Object :=
  if h.canWrite [] (.document r) then some (h.data r) else none

end Heap

end DocumentModel
