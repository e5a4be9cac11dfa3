/-
Validation changes errors only.

Whatever the item checks of a document do, and however deep they validate other documents, types,
values, lists and counters stay as they are.
-/
import DocumentModel.Proofs.Change
import DocumentModel.Validation

namespace DocumentModel

namespace Heap

variable {a b c h later : Heap}

/-- The errors of one document are replaced. -/
inductive Marks (h : Heap) : Heap → Prop
  | errors {r : DocRef} {d : Document} (hd : h.document? r = some d) (e : Errors) :
      Marks h (h.putDocument r { d with errors := e })

/-- Errors are replaced, any number of times. -/
def Marked : Heap → Heap → Prop :=
  Relation.ReflTransGen Marks

namespace Marked

theorem refl (h : Heap) : Marked h h :=
  Relation.ReflTransGen.refl

theorem trans (hab : Marked a b) (hbc : Marked b c) : Marked a c :=
  Relation.ReflTransGen.trans hab hbc

theorem changes (hmarked : Marked h later) (types : List Schema) :
    Changes types 0 0 h later := by
  induction hmarked with
  | refl => exact .refl h
  | tail _ hmarks ih =>
      cases hmarks with
      | errors hd e => exact ih.trans (.single (.newErrors e (Nat.zero_le _) hd))

theorem lists (hmarked : Marked h later) : later.lists = h.lists := by
  induction hmarked with
  | refl => rfl
  | tail _ hmarks ih =>
      cases hmarks with
      | errors hd e => exact ih

/-- A document keeps its type and its slots. -/
theorem document? (hmarked : Marked h later) {r : DocRef} {d : Document}
    (hd : h.document? r = some d) : ∃ e, later.document? r = some { d with errors := e } := by
  induction hmarked with
  | refl => exact ⟨d.errors, hd⟩
  | tail _ hmarks ih =>
      obtain ⟨e, he⟩ := ih
      cases hmarks with
      | @errors s d' hd' e' =>
          by_cases hs : s = r
          · subst hs
            obtain rfl : _ = d' := Option.some.inj (he.symm.trans hd')
            exact ⟨e', document?_putDocument_self _ _ (by rw [he]; rfl)⟩
          · exact ⟨e, by rw [document?_putDocument_of_ne _ _ hs, he]⟩

theorem documents_length (hmarked : Marked h later) :
    later.documents.length = h.documents.length := by
  induction hmarked with
  | refl => rfl
  | tail _ hmarks ih =>
      cases hmarks with
      | errors hd e => simpa [putDocument] using ih

end Marked

end Heap

open Heap

variable {inner : DocRef → Session → Session × Errors}

/-- How a later pass may differ from an earlier one if none of the steps of validation breaks it: to
add an error, and to validate an embedded document by `inner`. -/
structure Pass.Steady (inner : DocRef → Session → Session × Errors) (R : Pass → Pass → Prop) :
    Prop where
  refl (p : Pass) : R p p
  trans {p q later : Pass} (hpq : R p q) (hq : R q later) : R p later
  report (p : Pass) (field message : String) :
    R p { p with errors := p.errors.add field message }
  inner (p : Pass) (item : DocRef) : R p { p with session := (inner item p.session).1 }

section

variable {R : Pass → Pass → Prop}

namespace Pass.Steady

theorem addAll (hR : Steady inner R) (p : Pass) (field : String) (messages : List String) :
    R p (p.addAll field messages) := by
  rw [Pass.addAll]
  induction messages generalizing p with
  | nil => exact hR.refl p
  | cons message rest ih => exact hR.trans (hR.report p field message) (ih _)

theorem foldl {α : Type} (hR : Steady inner R) {step : Pass → α → Pass}
    (hstep : ∀ p a, R p (step p a)) (as : List α) (p : Pass) : R p (as.foldl step p) := by
  induction as generalizing p with
  | nil => exact hR.refl p
  | cons a rest ih => exact hR.trans (hstep p a) (ih _)

end Pass.Steady

mutual

theorem Field.validate_steady (hR : Pass.Steady inner R) (d : Document) (v : Value) :
    (f : Field) → (p : Pass) → R p (f.validate inner d v p)
  | ⟨name, required, default?, kind⟩, p => by
      rw [Field.validate]
      exact hR.trans (hR.addAll p name _) (Kind.checkItems_steady hR d name v kind _)
termination_by structural f => f

theorem Kind.checkItems_steady (hR : Pass.Steady inner R) (d : Document) (name : String)
    (v : Value) : (kind : Kind) → (p : Pass) → R p (kind.checkItems inner d name v p)
  | .array lengths (some check), p => by
      rw [Kind.checkItems.eq_def]
      cases v with
      | array items =>
          exact hR.foldl (fun p item => Check.run_steady hR d (check name item) p) items p
      | _ => exact hR.refl p
  | .array lengths none, p => hR.refl p
  | .boolean, p => hR.refl p
  | .dateTime, p => hR.refl p
  | .float range, p => hR.refl p
  | .integer range, p => hR.refl p
  | .objectId, p => hR.refl p
  | .string rules, p => hR.refl p
  | .embedded schema, p => hR.refl p
  | .list schema, p => hR.refl p
termination_by structural kind => kind

theorem Check.run_steady (hR : Pass.Steady inner R) (d : Document) :
    (check : Check) → (p : Pass) → R p (check.run inner d p)
  | .done, p => hR.refl p
  | .report field message next, p => by
      rw [Check.run]
      exact hR.trans (hR.report p field message) (Check.run_steady hR d next _)
  | .errorsSoFar next, p => by
      rw [Check.run]
      exact Check.run_steady hR d (next p.errors) p
  | .fieldValue name next, p => by
      rw [Check.run]
      exact Check.run_steady hR d (next (d.value? name)) p
  | .ownErrors next, p => by
      rw [Check.run]
      exact Check.run_steady hR d (next d.errors) p
  | .errorsOf r next, p => by
      rw [Check.run]
      exact Check.run_steady hR d (next (p.session.heap.errorsOf r)) p
  | .contents looks next, p => by
      rw [Check.run]
      exact Check.run_steady hR d (next (p.session.heap.contentsOf looks)) p
  | .typeName v next, p => by
      rw [Check.run]
      exact Check.run_steady hR d (next (p.session.heap.typeName v)) p
  | .delegate f v next, p => by
      rw [Check.run]
      exact hR.trans (Field.validate_steady hR d v f p) (Check.run_steady hR d next _)
  | .validate item next, p => by
      rw [Check.run]
      exact hR.trans (hR.inner p item) (Check.run_steady hR d (next (inner item p.session).2) _)
termination_by structural check => check

end

namespace Document

theorem judge_steady (hR : Pass.Steady inner R) (d : Document) (p : Pass) (f : Field) :
    R p (d.judge inner p f) := by
  rw [judge]
  exact hR.trans (hR.addAll p f.name _) (Field.validate_steady hR d _ f _)

theorem foldl_judge_steady (hR : Pass.Steady inner R) (d : Document) (fields : List Field)
    (p : Pass) : R p (fields.foldl (d.judge inner) p) :=
  hR.foldl (d.judge_steady hR) fields p

end Document

end

/-- Validating an embedded document changes errors only. -/
def OnlyMarks (inner : DocRef → Session → Session × Errors) : Prop :=
  ∀ r s, Marked s.heap (inner r s).1.heap

theorem OnlyMarks.steady (hinner : OnlyMarks inner) :
    Pass.Steady inner fun p q => Marked p.session.heap q.session.heap where
  refl p := .refl p.session.heap
  trans hpq hq := hpq.trans hq
  report p _ _ := .refl p.session.heap
  inner p item := hinner item p.session

namespace Session

theorem heap_log (s : Session) (e : Event) (fields : List (String × String)) :
    (s.log e fields).heap = s.heap :=
  rfl

theorem putErrors_marked (s : Session) (r : DocRef) (e : Errors) :
    Marked s.heap (s.putErrors r e).heap := by
  rw [putErrors]
  split
  · exact .refl _
  · next d hd => exact Relation.ReflTransGen.single (.errors hd e)

theorem validateAt_marked (depth : Nat) : OnlyMarks (validateAt depth) := by
  induction depth with
  | zero => exact fun r s => .refl s.heap
  | succ depth ih =>
      intro r s
      rw [validateAt]
      split
      · exact .refl s.heap
      · next d _ =>
          have hpass := d.foldl_judge_steady ih.steady d.schema.fields ⟨s, .empty⟩
          generalize d.schema.fields.foldl (d.judge (validateAt depth)) ⟨s, .empty⟩ = p at hpass
          have hput := hpass.trans (putErrors_marked p.session r p.errors)
          simp only
          split <;> exact hput

/-- Validation changes errors only. -/
theorem validate_marked (s : Session) (r : DocRef) : Marked s.heap (s.validate r).2.heap :=
  validateAt_marked s.heap.documents.length r s

end Session

end DocumentModel
