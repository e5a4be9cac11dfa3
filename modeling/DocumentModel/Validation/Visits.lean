/-
What a validation visits.

Validation goes from a document to those that item checks validate in turn.  A document is held
while it is being validated, and nobody else can look into it.  So if a check comes back to it, by
validating it again or by looking at its type or its errors, the validation comes to nothing.
-/
import DocumentModel.Validation

namespace DocumentModel

/-- The documents that are visited when one thing is done after another. -/
def Pass.visitsEach {α : Type} (run : α → Pass → Pass) (visits : α → Pass → List DocRef) :
    List α → Pass → List DocRef
  | [], _ => []
  | a :: rest, p => visits a p ++ visitsEach run visits rest (run a p)

/-- How visits are counted: to look at a document counts as `looks` says, and to validate it as
`validates` says. -/
structure Visitor where
  looks : DocRef → List DocRef
  validates : DocRef → Session → List DocRef

section

variable (inner : DocRef → Session → Session × Errors) (visitor : Visitor) (d : Document)

mutual

/-- The visits when a value is judged by a field. -/
def Field.visits (f : Field) (v : Value) (p : Pass) : List DocRef :=
  match f with
  | ⟨name, required, default?, kind⟩ =>
      kind.visits name v
        (p.addAll name (Field.messages p.session.heap ⟨name, required, default?, kind⟩ v))
termination_by structural f

/-- The visits of the check of a plain sequence. -/
def Kind.visits (kind : Kind) (name : String) (v : Value) (p : Pass) : List DocRef :=
  match kind with
  | .array _ (some check) =>
      match v with
      | .array items =>
          Pass.visitsEach (fun item p => (check name item).run inner d p)
            (fun item p => (check name item).visits p) items p
      | _ => []
  | _ => []
termination_by structural kind

/-- The visits of an item check. -/
def Check.visits (c : Check) (p : Pass) : List DocRef :=
  match c with
  | .done => []
  | .report field message next => next.visits { p with errors := p.errors.add field message }
  | .errorsSoFar next => (next p.errors).visits p
  | .fieldValue name next => (next (d.value? name)).visits p
  | .ownErrors next => (next d.errors).visits p
  | .errorsOf r next => visitor.looks r ++ (next (p.session.heap.errorsOf r)).visits p
  | .contents looks next =>
      (looks p.session.heap.contents).flatMap visitor.looks ++
        (next (p.session.heap.contentsOf looks)).visits p
  | .typeName v next =>
      v.asDocument?.toList.flatMap visitor.looks ++ (next (p.session.heap.typeName v)).visits p
  | .delegate f v next => f.visits v p ++ next.visits (f.validate inner d v p)
  | .validate item next =>
      let (session, errors) := inner item p.session
      visitor.validates item p.session ++ (next errors).visits { p with session := session }
termination_by structural c

end

/-- The visits when a field of a document is judged. -/
def Document.visits (f : Field) (p : Pass) : List DocRef :=
  let refused := ((d.slot? f.name).map (·.rejected)).getD false
  f.visits inner visitor d (d.value f.name) (p.addAll f.name (if refused then [notAList] else []))

end

namespace Session

/-- The documents that are validated when a document is, to a given depth. -/
def visitedAt : (depth : Nat) → DocRef → Session → List DocRef
  | 0, _, _ => []
  | depth + 1, r, s =>
      match s.heap.document? r with
      | none => []
      | some d =>
          Pass.visitsEach (fun f p => d.judge (validateAt depth) p f)
            (d.visits (validateAt depth) ⟨fun _ => [], visitedAt depth⟩) d.schema.fields
            ⟨s, .empty⟩ ++ [r]

/-- The documents that are validated when a document is: it and the embedded documents that item
checks validate, at any depth. -/
def visited (s : Session) (r : DocRef) : List DocRef :=
  visitedAt s.heap.documents.length r s

/-- The documents that are looked at or validated while they are held, in the course of a validation
to a given depth.  Those in `held` are held already. -/
def clashesAt : (depth : Nat) → (held : List DocRef) → DocRef → Session → List DocRef
  | 0, held, r, _ => if r ∈ held then [r] else []
  | depth + 1, held, r, s =>
      if r ∈ held then [r]
      else
        match s.heap.document? r with
        | none => []
        | some d =>
            Pass.visitsEach (fun f p => d.judge (validateAt depth) p f)
              (d.visits (validateAt depth)
                ⟨fun q => if q ∈ r :: held then [q] else [], clashesAt depth (r :: held)⟩)
              d.schema.fields ⟨s, .empty⟩

/-- The documents that a validation comes back to while they are being validated. -/
def clashes (s : Session) (r : DocRef) : List DocRef :=
  clashesAt s.heap.documents.length [] r s

/-- Validate a document.  There is no result if a check comes back to a document that is being
validated. -/
def validate? (s : Session) (r : DocRef) : Option (Bool × Session) :=
  if (s.clashes r).isEmpty then some (s.validate r) else none

theorem validate?_eq_some_iff {s : Session} {r : DocRef} {result : Bool × Session} :
    s.validate? r = some result ↔ s.clashes r = [] ∧ s.validate r = result := by
  rw [validate?, Option.ite_none_right_eq_some, List.isEmpty_iff, Option.some.injEq]

end Session

end DocumentModel
