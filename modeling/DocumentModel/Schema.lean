/-
Record types.

A `Schema` is an ordered list of named fields.  It is either embedded or stands on its own, and may
extend a parent, whose fields and role it takes over.  Types are told apart by declaration: each
carries a number that no other declaration has.
-/
import DocumentModel.Errors
import DocumentModel.Pattern
import DocumentModel.Value

namespace DocumentModel

/-- Bounds of a number, ends included. -/
structure Range (α : Type) where
  min? : Option α
  max? : Option α

/-- Bounds of a length.  An exact length replaces the other two. -/
structure LengthRules where
  fixed? : Option Nat
  min? : Option Nat
  max? : Option Nat
deriving DecidableEq, Repr

def LengthRules.free : LengthRules :=
  ⟨none, none, none⟩

structure StringRules where
  lengths : LengthRules
  pattern? : Option Pattern
  /-- The texts to choose from, looked at only when a document is made with given values. -/
  choices? : Option (List String)

/-- Does a record type stand on its own, or live inside others only? -/
inductive Role where
  | document
  | embedded
deriving DecidableEq, Repr

/-- A mutable number that default factories share. -/
structure CounterRef where
  index : Nat
deriving DecidableEq, Repr

/-- What documents and typed lists hold. -/
structure Contents where
  /-- The value of each field of a document. -/
  values : DocRef → List (String × Value)
  items : ListRef → List DocRef

/-- What lists hold, and only some of the documents. -/
def Contents.only (c : Contents) (seen : List DocRef) : Contents :=
  { c with values := fun r => if r ∈ seen then c.values r else [] }

mutual

/-- A declared record type. -/
structure Schema where
  /-- The number of the declaration. -/
  id : Nat
  name : String
  role : Role
  parent? : Option Schema
  fields : List Field

/-- A declared field. -/
structure Field where
  name : String
  required : Bool
  default? : Option Default
  kind : Kind

/-- What kind of values a field is for, and its rules for them. -/
inductive Kind where
  | boolean
  | dateTime
  | float (range : Range Float)
  | integer (range : Range Int64)
  | objectId
  | string (rules : StringRules)
  /-- A plain sequence.  The check, if there is one, is run for each item: it is given the name of
  the field and the item. -/
  | array (lengths : LengthRules) (check? : Option (String → Value → Check))
  /-- One embedded document of a given type. -/
  | embedded (schema : Schema)
  /-- A list of embedded documents of a given type. -/
  | list (schema : Schema)

/-- A declared default: a value that all documents share, or a recipe followed anew for each. -/
inductive Default where
  | value (v : Value)
  | factory (recipe : Recipe)

/-- How to make a value. -/
inductive Recipe where
  | plain (v : Value)
  /-- The number in a counter, which then goes up by one. -/
  | counter (ref : CounterRef)
  | array (items : List Recipe)
  | map (entries : List (String × Recipe))
  /-- A new embedded document with some fields assigned. -/
  | document (schema : Schema) (values : List (String × Recipe))
  /-- A new list with some documents in it. -/
  | list (schema : Schema) (items : List Recipe)

/-- What an item check does: it looks at documents and at errors, and adds errors.  It assigns
nothing. -/
inductive Check where
  | done
  /-- Add an error under any field name. -/
  | report (field message : String) (next : Check)
  /-- Look at the errors recorded so far in this validation. -/
  | errorsSoFar (next : Errors → Check)
  /-- Look at a field of the document that is being validated. -/
  | fieldValue (name : String) (next : Option Value → Check)
  /-- Look at the errors that the document has from before.  They are replaced at the end only. -/
  | ownErrors (next : Errors → Check)
  /-- Look at the errors that any document has. -/
  | errorsOf (r : DocRef) (next : Errors → Check)
  /-- Look at what lists hold, and some of the documents.  What they hold may decide which. -/
  | contents (looks : Contents → List DocRef) (next : Contents → Check)
  /-- Ask what type a value has. -/
  | typeName (v : Value) (next : String → Check)
  /-- Let another field judge a value. -/
  | delegate (field : Field) (v : Value) (next : Check)
  /-- Validate an embedded document and look at its errors. -/
  | validate (item : DocRef) (next : Errors → Check)

end

namespace Kind

/-- The kind's name in messages. -/
def name : Kind → String
  | boolean => "boolean"
  | dateTime => "datetime"
  | float _ => "float"
  | integer _ => "integer"
  | objectId => "object_id"
  | string _ => "string"
  | array _ _ => "array"
  | embedded _ => "embedded"
  | list _ => "list"

def isList : Kind → Bool
  | list _ => true
  | _ => false

end Kind

namespace Field

/-- The field's name as a reader should see it. -/
def label (f : Field) : String :=
  Text.label f.name

end Field

namespace Schema

def isEmbedded (s : Schema) : Bool :=
  s.role = .embedded

def field? (s : Schema) (name : String) : Option Field :=
  s.fields.find? fun f => f.name = name

def fieldNames (s : Schema) : List String :=
  s.fields.map (·.name)

/-- Is `s` the type `other` or one that extends it, directly or not? -/
def isA (s other : Schema) : Bool :=
  match s with
  | ⟨id, _, _, none, _⟩ => id == other.id
  | ⟨id, _, _, some parent, _⟩ => id == other.id || isA parent other
termination_by structural s

theorem isA_refl (s : Schema) : s.isA s = true := by
  obtain ⟨id, name, role, _ | parent, fields⟩ := s <;> simp [isA]

/-- A type is whatever the type is that it extends. -/
theorem isA_of_parent {s parent other : Schema} (hparent : s.parent? = some parent)
    (h : parent.isA other = true) : s.isA other = true := by
  obtain ⟨id, name, role, parent?, fields⟩ := s
  change parent? = some parent at hparent
  subst hparent
  simp [isA, h]

/-- Declare one more field.  A name that is declared already keeps its position. -/
def addField (fields : List Field) (field : Field) : List Field :=
  match fields with
  | [] => [field]
  | f :: rest => if f.name = field.name then field :: rest else f :: addField rest field

theorem find?_addField_self (fields : List Field) (field : Field) :
    (addField fields field).find? (fun f => f.name = field.name) = some field := by
  induction fields with
  | nil => simp [addField]
  | cons f rest ih => by_cases hf : f.name = field.name <;> simp [addField, hf, ih]

theorem find?_addField_of_ne (fields : List Field) (field : Field) {name : String}
    (hne : field.name ≠ name) :
    (addField fields field).find? (fun f => f.name = name) =
      fields.find? fun f => f.name = name := by
  induction fields with
  | nil => simp [addField, hne]
  | cons f rest ih =>
      by_cases hf : f.name = field.name
      · simp [addField, hf, hne]
      · simp only [addField, hf, ↓reduceIte, List.find?_cons, ih]

/-- Declaring a field keeps the names and their order; only a new name is added, at the end. -/
theorem map_name_addField (fields : List Field) (field : Field) :
    (addField fields field).map (·.name) =
      if field.name ∈ fields.map (·.name) then fields.map (·.name)
      else fields.map (·.name) ++ [field.name] := by
  induction fields with
  | nil => simp [addField]
  | cons f rest ih =>
      by_cases hf : f.name = field.name
      · simp [addField, hf]
      · have hname : ¬ field.name = f.name := fun h => hf h.symm
        simp only [addField, hf, ↓reduceIte, List.map_cons, ih, List.mem_cons, hname, false_or]
        split <;> simp

/-- Declare fields in order, after those that are there already. -/
def addFields (fields new : List Field) : List Field :=
  new.foldl addField fields

/-- A type whose documents stand on their own. -/
def document (id : Nat) (name : String) (fields : List Field) : Schema :=
  ⟨id, name, .document, none, addFields [] fields⟩

/-- A type whose documents live inside others. -/
def embedded (id : Nat) (name : String) (fields : List Field) : Schema :=
  ⟨id, name, .embedded, none, addFields [] fields⟩

def extend (id : Nat) (parent : Schema) (name : String) (fields : List Field) : Schema :=
  ⟨id, name, parent.role, some parent, addFields parent.fields fields⟩

/-- Only embedded types can be embedded. -/
def requireEmbedded (s : Schema) : Except SchemaError Schema :=
  if s.isEmbedded then .ok s else .error (.notEmbedded s.name)

end Schema

namespace Kind

/-- The kind of a field that holds one document of an embedded type. -/
def embeddedIn (s : Schema) : Except SchemaError Kind :=
  s.requireEmbedded.map .embedded

/-- The kind of a field that holds a list of documents of an embedded type. -/
def listOf (s : Schema) : Except SchemaError Kind :=
  s.requireEmbedded.map .list

end Kind

namespace Pattern

def declared (source : String) : Except SchemaError Pattern :=
  match parse? source with
  | some p => .ok p
  | none => .error (.invalidPattern source)

end Pattern

end DocumentModel
