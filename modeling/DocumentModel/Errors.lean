/-
What can be wrong.

Invalid data is no failure: it is collected, one entry per broken rule.  A `SchemaError` is a fault
in a declaration or in the use of one, and stops the operation.
-/
import DocumentModel.Text.Label

namespace DocumentModel

/-- The collected errors of a document: field names and messages, in the order they were found. -/
structure Errors where
  entries : List (String × String)
deriving DecidableEq, Repr

namespace Errors

def empty : Errors := ⟨[]⟩

/-- One more entry, at the end. -/
def add (e : Errors) (field message : String) : Errors :=
  ⟨e.entries ++ [(field, message)]⟩

def count (e : Errors) : Nat :=
  e.entries.length

def isEmpty (e : Errors) : Bool :=
  e.entries.isEmpty

def on (e : Errors) (field : String) : List String :=
  (e.entries.filter fun entry => entry.1 = field).map (·.2)

/-- Every entry as a sentence: the label of its field and its message. -/
def fullMessages (e : Errors) : List String :=
  e.entries.map fun entry => Text.label entry.1 ++ " " ++ entry.2

theorem count_add (e : Errors) (field message : String) :
    (e.add field message).count = e.count + 1 := by
  simp [add, count]

theorem on_add (e : Errors) (name field message : String) :
    (e.add field message).on name = e.on name ++ if field = name then [message] else [] := by
  by_cases h : field = name <;> simp [add, on, h]

theorem fullMessages_add (e : Errors) (field message : String) :
    (e.add field message).fullMessages =
      e.fullMessages ++ [Text.label field ++ " " ++ message] := by
  simp [add, fullMessages]

/-- All sentences in one line. -/
def text (e : Errors) : String :=
  "; ".intercalate e.fullMessages

end Errors

/-- A fault in a declaration, or in what is done with a declared type. -/
inductive SchemaError where
  /-- A field embeds a type whose documents stand on their own. -/
  | notEmbedded (found : String)
  /-- A list is offered a document of a type that does not fit. -/
  | typeMismatch (expected found : String)
  /-- A declared default is of no use to its field. -/
  | invalidDefault (field expected found : String)
  | invalidPattern (pattern : String)
  | unknownField (schema field : String)
deriving DecidableEq, Repr

namespace SchemaError

def code : SchemaError → String
  | .notEmbedded _ => "SCHEMA_NOT_EMBEDDED"
  | .typeMismatch _ _ => "SCHEMA_EMBEDDED_TYPE_MISMATCH"
  | .invalidDefault _ _ _ => "SCHEMA_INVALID_DEFAULT"
  | .invalidPattern _ => "SCHEMA_INVALID_PATTERN"
  | .unknownField _ _ => "SCHEMA_UNKNOWN_FIELD"

def message : SchemaError → String
  | .notEmbedded found => "expected " ++ found ++ " to be an embedded document type"
  | .typeMismatch expected found =>
      "expected " ++ found ++ " to be a subtype of " ++ expected
  | .invalidDefault field expected found =>
      "default for '" ++ field ++ "' must be " ++ expected ++ ", found " ++ found
  | .invalidPattern pattern => "invalid pattern '" ++ pattern ++ "': "
  | .unknownField schema field => schema ++ " has no field named '" ++ field ++ "'"

end SchemaError

end DocumentModel
