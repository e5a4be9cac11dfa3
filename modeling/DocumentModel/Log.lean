/-
The log.

One event is one line: a JSON object with the event, its severity and then the other fields, sorted
by key.  A key that is given again keeps its place and takes the later value.
-/
import DocumentModel.Json.Printer

namespace DocumentModel

inductive Severity where
  | trace
  | info
  | warn
  | error
  | fatal
deriving DecidableEq, Repr

namespace Severity

def rank : Severity → Nat
  | trace => 0
  | info => 1
  | warn => 2
  | error => 3
  | fatal => 4

def name : Severity → String
  | trace => "TRACE"
  | info => "INFO"
  | warn => "WARN"
  | error => "ERROR"
  | fatal => "FATAL"

/-- Is a line of this severity written when `least` is the least one that is? -/
def enabled (s least : Severity) : Bool :=
  least.rank ≤ s.rank

/-- Does a line of this severity belong to the error output? -/
def isFailure (s : Severity) : Bool :=
  Severity.error.rank ≤ s.rank

/-- The least severity that is written unless told otherwise. -/
def usual : Severity := warn

end Severity

/-- What can happen to a document. -/
inductive Event where
  /-- Validation found nothing wrong. -/
  | validated
  /-- Validation found something wrong. -/
  | invalid
  | inserted
  | updated
  | deleted
  | found
  /-- Saving was refused because the document is invalid. -/
  | rejected
deriving DecidableEq, Repr

namespace Event

def name : Event → String
  | validated => "DOCUMENT_VALIDATED"
  | invalid => "DOCUMENT_INVALID"
  | inserted => "DOCUMENT_INSERT"
  | updated => "DOCUMENT_UPDATE"
  | deleted => "DOCUMENT_DELETE"
  | found => "DOCUMENT_FIND"
  | rejected => "DOCUMENT_REJECTED"

def severity : Event → Severity
  | validated => .trace
  | invalid => .trace
  | rejected => .warn
  | _ => .info

end Event

/-- One line of the log, before it is written. -/
structure LogRecord where
  severity : Severity
  event : String
  fields : List (String × String)
deriving DecidableEq, Repr

namespace LogRecord

def ofEvent (e : Event) (fields : List (String × String)) : LogRecord :=
  ⟨e.severity, e.name, fields⟩

/-- Fields sorted by key; equal keys stay in order. -/
def sorted (fields : List (String × String)) : List (String × String) :=
  fields.mergeSort fun a b => a.1 ≤ b.1

def toJson (r : LogRecord) : Json :=
  let fields := (sorted r.fields).map fun f => (f.1, Json.str f.2)
  .obj (Json.Object.merge [("event", .str r.event), ("severity", .str r.severity.name)] fields)

/-- The line that is written, with its line feed. -/
def line (r : LogRecord) : String :=
  r.toJson.render ++ "\n"

end LogRecord

end DocumentModel
