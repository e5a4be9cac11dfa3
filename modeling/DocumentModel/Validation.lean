/-
Validation.

Each field in turn is judged by its rules: a refused assignment, a missing value, then the rules of
its kind.  Every broken rule adds one error, and nothing else about the document changes.  The items
of a plain sequence may have a check of their own, which sees the errors found so far.
-/
import DocumentModel.Assignment
import DocumentModel.Log

namespace DocumentModel

/-- The heap, and what has been logged so far, oldest record first. -/
structure Session where
  heap : Heap
  journal : List LogRecord

namespace Session

def empty : Session := ⟨.empty, []⟩

/-- Log an event. -/
def log (s : Session) (e : Event) (fields : List (String × String)) : Session :=
  { s with journal := s.journal ++ [.ofEvent e fields] }

end Session

/-- The message for a value that is not a sequence. -/
def notAList : String := "is not a list."

def isRequired : String := "is required"

namespace LengthRules

/-- What is wrong with a length. -/
def messages (rules : LengthRules) (length : Nat) (unit : String) : List String :=
  match rules.fixed? with
  | some exact =>
      if length = exact then []
      else ["is the wrong length (should be " ++ toString exact ++ " " ++ unit ++ ")"]
  | none =>
      (match rules.min? with
        | some least =>
            if length < least then
              ["is too short (minimum is " ++ toString least ++ " " ++ unit ++ ")"]
            else []
        | none => []) ++
      (match rules.max? with
        | some most =>
            if most < length then
              ["is too long (maximum is " ++ toString most ++ " " ++ unit ++ ")"]
            else []
        | none => [])

end LengthRules

namespace Range

/-- What is wrong with a number, given an order and a text for numbers. -/
def messages {α : Type} (range : Range α) (less : α → α → Bool) (text : α → String) (x : α) :
    List String :=
  (match range.min? with
    | some least =>
        if less x least then ["is too small (minimum is " ++ text least ++ ")"] else []
    | none => []) ++
  (match range.max? with
    | some most =>
        if less most x then ["is too big (maximum is " ++ text most ++ ")"] else []
    | none => [])

end Range

namespace Kind

/-- What is wrong with a value by the rules of the kind alone. -/
def messages (kind : Kind) (required absent : Bool) (v : Value) : List String :=
  match kind with
  | .string rules =>
      if absent && !required then []
      else
        let s := v.asText?.getD ""
        rules.lengths.messages s.length "characters" ++
          (match rules.pattern? with
            | some p => if absent || p.isMatch s then [] else ["is in the wrong format"]
            | none => [])
  | .array lengths _ =>
      match v with
      | .null => if required then lengths.messages 0 "items" else []
      | .array items => lengths.messages items.length "items"
      | _ => [notAList]
  | _ =>
      if v.isNull then []
      else match kind with
        | .boolean => if v.asBool?.isSome then [] else ["must be a valid boolean"]
        | .dateTime => if v.asInstant?.isSome then [] else ["must be a valid date and time"]
        | .float range =>
            match v.asFloat? with
            | some x => range.messages (· < ·) Decimal.Layout.positional.format x
            | none => ["must be a float"]
        | .integer range =>
            match v.asInt? with
            | some n => range.messages (· < ·) (fun n => toString n.toInt) n
            | none => ["must be a integer"]
        | .objectId => if v.asObjectId?.isSome then [] else ["must be a valid Object Id"]
        | _ => []

end Kind

namespace Field

/-- What is wrong with a value by the rules of the field, item checks apart. -/
def messages (h : Heap) (f : Field) (v : Value) : List String :=
  let absent := f.isAbsent h v
  (if f.required && absent then [isRequired] else []) ++ f.kind.messages f.required absent v

end Field

/-- A validation under way: the session and the errors found so far. -/
structure Pass where
  session : Session
  errors : Errors

namespace Pass

def addAll (p : Pass) (field : String) (messages : List String) : Pass :=
  { p with errors := messages.foldl (fun e m => e.add field m) p.errors }

end Pass

mutual

/-- Judge a value by a field.  `inner` validates an embedded document. -/
def Field.validate (inner : DocRef → Session → Session × Errors) (d : Document) (f : Field)
    (v : Value) (p : Pass) : Pass :=
  match f with
  | ⟨name, required, default?, kind⟩ =>
      kind.checkItems inner d name v
        (p.addAll name (Field.messages p.session.heap ⟨name, required, default?, kind⟩ v))
termination_by structural f

/-- Run the check of a plain sequence for each of its items. -/
def Kind.checkItems (inner : DocRef → Session → Session × Errors) (d : Document) (kind : Kind)
    (name : String) (v : Value) (p : Pass) : Pass :=
  match kind with
  | .array _ (some check) =>
      match v with
      | .array items => items.foldl (fun p item => (check name item).run inner d p) p
      | _ => p
  | _ => p
termination_by structural kind

/-- Run an item check. -/
def Check.run (inner : DocRef → Session → Session × Errors) (d : Document) (c : Check)
    (p : Pass) : Pass :=
  match c with
  | .done => p
  | .report field message next => next.run inner d { p with errors := p.errors.add field message }
  | .errorsSoFar next => (next p.errors).run inner d p
  | .fieldValue name next => (next (d.value? name)).run inner d p
  | .ownErrors next => (next d.errors).run inner d p
  | .errorsOf r next => (next (p.session.heap.errorsOf r)).run inner d p
  | .contents looks next => (next (p.session.heap.contentsOf looks)).run inner d p
  | .typeName v next => (next (p.session.heap.typeName v)).run inner d p
  | .delegate f v next => next.run inner d (f.validate inner d v p)
  | .validate item next =>
      let (session, errors) := inner item p.session
      (next errors).run inner d { p with session := session }
termination_by structural c

end

namespace Document

/-- Judge one field of a document. -/
def judge (inner : DocRef → Session → Session × Errors) (d : Document) (p : Pass) (f : Field) :
    Pass :=
  let refused := ((d.slot? f.name).map (·.rejected)).getD false
  f.validate inner d (d.value f.name) (p.addAll f.name (if refused then [notAList] else []))

end Document

namespace Session

/-- Put errors in the place of those a document had. -/
def putErrors (s : Session) (r : DocRef) (errors : Errors) : Session :=
  match s.heap.document? r with
  | none => s
  | some d => { s with heap := s.heap.putDocument r { d with errors := errors } }

/-- Validate a document, with checks that may validate others up to a given depth.  A check that
comes back to a document that is being validated would not get past it (`validate?`); at depth 0 it
does so, as if nothing were wrong. -/
def validateAt : (depth : Nat) → DocRef → Session → Session × Errors
  | 0, _, s => (s, .empty)
  | depth + 1, r, s =>
      match s.heap.document? r with
      | none => (s, .empty)
      | some d =>
          let p := d.schema.fields.foldl (d.judge (validateAt depth)) ⟨s, .empty⟩
          let s := p.session.putErrors r p.errors
          let s :=
            if p.errors.isEmpty then s.log .validated [("schema", d.schema.name)]
            else s.log .invalid
              [("schema", d.schema.name), ("error_count", toString p.errors.count)]
          (s, p.errors)

/-- What it comes to to validate a document: its errors are found anew.  A chain of documents, each
validating the next, is no longer than the number of documents, unless it comes back to one of them:
then it comes to nothing (`validate?`). -/
def validate (s : Session) (r : DocRef) : Bool × Session :=
  let (s, errors) := s.validateAt (s.heap.documents.length) r
  (errors.isEmpty, s)

end Session

end DocumentModel
