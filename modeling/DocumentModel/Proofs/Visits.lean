/-
Visits.

Validation leaves alone what it does not visit.  What it visits depends on types, values and lists,
and on errors from before only where item checks look at them.  If it comes back to nothing that is
being validated, it never goes as deep as its bound: a chain of documents, each validating the next,
is no longer than the number of documents.
-/
import DocumentModel.Proofs.Containment
import DocumentModel.Proofs.Validity
import DocumentModel.Validation.Visits

namespace DocumentModel

open Heap

variable {inner inner' : DocRef → Session → Session × Errors} {visitor : Visitor}
  {d d' : Document} {q : DocRef} {n : Nat} {old : Prop}

/-! ### What is not visited stays -/

/-- Validating an embedded document leaves a document alone unless it is visited. -/
def Spares (inner : DocRef → Session → Session × Errors)
    (validates : DocRef → Session → List DocRef) (q : DocRef) : Prop :=
  ∀ r s, q ∉ validates r s → (inner r s).1.heap.document? q = s.heap.document? q

namespace Pass

/-- What is so for each step is so for all of them. -/
theorem visitsEach_spares {α : Type} {run : α → Pass → Pass} {visits : α → Pass → List DocRef}
    (hstep : ∀ a p, q ∉ visits a p →
      (run a p).session.heap.document? q = p.session.heap.document? q) (as : List α) (p : Pass)
    (hq : q ∉ visitsEach run visits as p) :
    (as.foldl (fun p a => run a p) p).session.heap.document? q = p.session.heap.document? q := by
  induction as generalizing p with
  | nil => rfl
  | cons a rest ih =>
      rw [visitsEach, List.mem_append, not_or] at hq
      rw [List.foldl_cons, ih (run a p) hq.2, hstep a p hq.1]

end Pass

mutual

theorem Field.validate_spares (hinner : Spares inner visitor.validates q) (d : Document)
    (v : Value) : (f : Field) → (p : Pass) → q ∉ f.visits inner visitor d v p →
    (f.validate inner d v p).session.heap.document? q = p.session.heap.document? q
  | ⟨name, required, default?, kind⟩, p, hq => by
      rw [Field.visits] at hq
      rw [Field.validate]
      exact Kind.checkItems_spares hinner d name v kind _ hq
termination_by structural f => f

theorem Kind.checkItems_spares (hinner : Spares inner visitor.validates q) (d : Document)
    (name : String) (v : Value) : (kind : Kind) → (p : Pass) →
    q ∉ kind.visits inner visitor d name v p →
    (kind.checkItems inner d name v p).session.heap.document? q = p.session.heap.document? q
  | .array lengths (some check), p, hq => by
      rw [Kind.visits.eq_def] at hq
      rw [Kind.checkItems.eq_def]
      cases v with
      | array items =>
          exact Pass.visitsEach_spares
            (fun item p => Check.run_spares hinner d (check name item) p) items p hq
      | _ => rfl
  | .array lengths none, p, _ => rfl
  | .boolean, p, _ => rfl
  | .dateTime, p, _ => rfl
  | .float range, p, _ => rfl
  | .integer range, p, _ => rfl
  | .objectId, p, _ => rfl
  | .string rules, p, _ => rfl
  | .embedded schema, p, _ => rfl
  | .list schema, p, _ => rfl
termination_by structural kind => kind

theorem Check.run_spares (hinner : Spares inner visitor.validates q) (d : Document) :
    (check : Check) → (p : Pass) → q ∉ check.visits inner visitor d p →
    (check.run inner d p).session.heap.document? q = p.session.heap.document? q
  | .done, p, _ => rfl
  | .report field message next, p, hq => by
      rw [Check.visits] at hq
      rw [Check.run]
      exact Check.run_spares hinner d next { p with errors := p.errors.add field message } hq
  | .errorsSoFar next, p, hq => by
      rw [Check.visits] at hq
      rw [Check.run]
      exact Check.run_spares hinner d (next p.errors) p hq
  | .fieldValue name next, p, hq => by
      rw [Check.visits] at hq
      rw [Check.run]
      exact Check.run_spares hinner d (next (d.value? name)) p hq
  | .ownErrors next, p, hq => by
      rw [Check.visits] at hq
      rw [Check.run]
      exact Check.run_spares hinner d (next d.errors) p hq
  | .errorsOf r next, p, hq => by
      rw [Check.visits, List.mem_append, not_or] at hq
      rw [Check.run]
      exact Check.run_spares hinner d (next (p.session.heap.errorsOf r)) p hq.2
  | .contents looks next, p, hq => by
      rw [Check.visits, List.mem_append, not_or] at hq
      rw [Check.run]
      exact Check.run_spares hinner d (next (p.session.heap.contentsOf looks)) p hq.2
  | .typeName v next, p, hq => by
      rw [Check.visits, List.mem_append, not_or] at hq
      rw [Check.run]
      exact Check.run_spares hinner d (next (p.session.heap.typeName v)) p hq.2
  | .delegate f v next, p, hq => by
      rw [Check.visits, List.mem_append, not_or] at hq
      rw [Check.run, Check.run_spares hinner d next (f.validate inner d v p) hq.2,
        Field.validate_spares hinner d v f p hq.1]
  | .validate item next, p, hq => by
      rw [Check.visits] at hq
      simp only [List.mem_append, not_or] at hq
      rw [Check.run]
      simp only
      rw [Check.run_spares hinner d (next (inner item p.session).2)
        { p with session := (inner item p.session).1 } hq.2]
      exact hinner item p.session hq.1
termination_by structural check => check

end

theorem Document.judge_spares (hinner : Spares inner visitor.validates q) (d : Document) (f : Field)
    (p : Pass) (hq : q ∉ d.visits inner visitor f p) :
    (d.judge inner p f).session.heap.document? q = p.session.heap.document? q := by
  rw [visits] at hq
  rw [judge]
  exact Field.validate_spares hinner d _ f _ hq

namespace Session

theorem document?_putErrors_of_ne (s : Session) {r : DocRef} (e : Errors) (hne : r ≠ q) :
    (s.putErrors r e).heap.document? q = s.heap.document? q := by
  rw [putErrors]
  split
  · rfl
  · exact document?_putDocument_of_ne _ _ hne

/-- What validation leaves is what its pass leaves, with the errors put into the document. -/
theorem heap_validateAt (depth : Nat) {s : Session} {r : DocRef} {d : Document}
    (hd : s.heap.document? r = some d) :
    let p := d.schema.fields.foldl (d.judge (validateAt depth)) ⟨s, .empty⟩
    (s.validateAt (depth + 1) r).1.heap = (p.session.putErrors r p.errors).heap := by
  rw [validateAt, hd]
  simp only
  split <;> rfl

/-- Validation leaves a document alone unless it visits it. -/
theorem validateAt_spares (depth : Nat) (q : DocRef) :
    Spares (validateAt depth) (visitedAt depth) q := by
  induction depth with
  | zero => exact fun r s _ => rfl
  | succ depth ih =>
      intro r s hq
      simp only [visitedAt] at hq
      cases hd : s.heap.document? r with
      | none =>
          rw [validateAt, hd]
      | some d =>
          rw [hd] at hq
          simp only [List.mem_append, List.mem_singleton, not_or] at hq
          rw [heap_validateAt depth hd, document?_putErrors_of_ne _ _ (Ne.symm hq.2)]
          exact Pass.visitsEach_spares (d.judge_spares ih) d.schema.fields ⟨s, .empty⟩ hq.1

end Session

/-! ### What is visited -/

/-- What validating an embedded document counts as is the same in heaps that are alike. -/
def Visitor.SeesValues (old : Prop) (visitor : Visitor) : Prop :=
  ∀ {r} {s s' : Session}, s.heap.Alike old s'.heap →
    visitor.validates r s = visitor.validates r s'

theorem Pass.visitsEach_congr {α : Type} {run run' : α → Pass → Pass}
    {visits visits' : α → Pass → List DocRef} {as : List α}
    (hrun : ∀ a ∈ as, ∀ {p p' : Pass}, p.Alike old p' → (run a p).Alike old (run' a p'))
    (hvisits : ∀ a ∈ as, ∀ {p p' : Pass}, p.Alike old p' → visits a p = visits' a p')
    {p p' : Pass} (hp : p.Alike old p') :
    visitsEach run visits as p = visitsEach run' visits' as p' := by
  induction as generalizing p p' with
  | nil => rfl
  | cons a rest ih =>
      have hfirst := List.mem_cons_self (a := a) (l := rest)
      rw [visitsEach, visitsEach, hvisits a hfirst hp, ih
        (fun b hb => hrun b (List.mem_cons_of_mem a hb))
        (fun b hb => hvisits b (List.mem_cons_of_mem a hb)) (hrun a hfirst hp)]

mutual

theorem Field.visits_congr (hsees : SeesValues old inner) (hcounts : visitor.SeesValues old)
    (hd : d.Alike old d') (v : Value) : (f : Field) → old ∨ f.Forgetful → {p p' : Pass} →
    p.Alike old p' → f.visits inner visitor d v p = f.visits inner visitor d' v p'
  | ⟨name, required, default?, kind⟩, hlook, p, p', hp => by
      rw [Field.visits, Field.visits, Field.messages_congr (lists_of_cleared_eq hp.heap.cleared)]
      exact Kind.visits_congr hsees hcounts hd name v kind hlook (hp.addAll name _)
termination_by structural f => f

theorem Kind.visits_congr (hsees : SeesValues old inner) (hcounts : visitor.SeesValues old)
    (hd : d.Alike old d') (name : String) (v : Value) : (kind : Kind) → old ∨ kind.Forgetful →
    {p p' : Pass} → p.Alike old p' →
    kind.visits inner visitor d name v p = kind.visits inner visitor d' name v p'
  | .array lengths (some check), hlook, p, p', hp => by
      rw [Kind.visits.eq_def, Kind.visits.eq_def inner visitor d']
      cases v with
      | array items =>
          have hitem : ∀ item, old ∨ (check name item).Forgetful :=
            fun item => hlook.imp_right fun h => h name item
          exact Pass.visitsEach_congr
            (fun item _ _ _ => Check.run_congr hsees hd (check name item) (hitem item))
            (fun item _ _ _ => Check.visits_congr hsees hcounts hd (check name item) (hitem item))
            hp
      | _ => rfl
  | .array lengths none, _, p, p', _ => rfl
  | .boolean, _, p, p', _ => rfl
  | .dateTime, _, p, p', _ => rfl
  | .float range, _, p, p', _ => rfl
  | .integer range, _, p, p', _ => rfl
  | .objectId, _, p, p', _ => rfl
  | .string rules, _, p, p', _ => rfl
  | .embedded schema, _, p, p', _ => rfl
  | .list schema, _, p, p', _ => rfl
termination_by structural kind => kind

theorem Check.visits_congr (hsees : SeesValues old inner) (hcounts : visitor.SeesValues old)
    (hd : d.Alike old d') : (check : Check) → old ∨ check.Forgetful → {p p' : Pass} →
    p.Alike old p' → check.visits inner visitor d p = check.visits inner visitor d' p'
  | .done, _, p, p', _ => rfl
  | .report field message next, hlook, p, p', hp => by
      rw [Check.visits, Check.visits]
      exact Check.visits_congr hsees hcounts hd next hlook (hp.report field message)
  | .errorsSoFar next, hlook, p, p', hp => by
      rw [Check.visits, Check.visits, hp.errors]
      exact Check.visits_congr hsees hcounts hd (next p'.errors) (hlook.imp_right fun h => h _) hp
  | .fieldValue name next, hlook, p, p', hp => by
      rw [Check.visits, Check.visits, hd.value?]
      exact Check.visits_congr hsees hcounts hd (next (d'.value? name))
        (hlook.imp_right fun h => h _) hp
  | .ownErrors next, hlook, p, p', hp => by
      have hold : old := hlook.resolve_right id
      rw [Check.visits, Check.visits, hd.errors hold]
      exact Check.visits_congr hsees hcounts hd (next d'.errors) (Or.inl hold) hp
  | .errorsOf r next, hlook, p, p', hp => by
      have hold : old := hlook.resolve_right id
      rw [Check.visits, Check.visits, hp.errorsOf hold]
      exact congrArg _ (Check.visits_congr hsees hcounts hd (next (p'.session.heap.errorsOf r))
        (Or.inl hold) hp)
  | .contents looks next, hlook, p, p', hp => by
      rw [Check.visits, Check.visits, hp.contents, hp.contentsOf]
      exact congrArg _ (Check.visits_congr hsees hcounts hd
        (next (p'.session.heap.contentsOf looks)) (hlook.imp_right fun h => h _) hp)
  | .typeName v next, hlook, p, p', hp => by
      rw [Check.visits, Check.visits, hp.typeName]
      exact congrArg _ (Check.visits_congr hsees hcounts hd (next (p'.session.heap.typeName v))
        (hlook.imp_right fun h => h _) hp)
  | .delegate f v next, hlook, p, p', hp => by
      rw [Check.visits, Check.visits,
        Field.visits_congr hsees hcounts hd v f (hlook.imp_right And.left) hp]
      exact congrArg _ (Check.visits_congr hsees hcounts hd next (hlook.imp_right And.right)
        (Field.validate_congr hsees hd v f (hlook.imp_right And.left) hp))
  | .validate item next, hlook, p, p', hp => by
      rw [Check.visits, Check.visits, hcounts hp.heap]
      simp only [hsees.errors hp.heap]
      exact congrArg _ (Check.visits_congr hsees hcounts hd (next (inner item p'.session).2)
        (hlook.imp_right fun h => h _) ⟨hp.errors, hsees.heap hp.heap⟩)
termination_by structural check => check

end

namespace Document

theorem visits_congr (hsees : SeesValues old inner) (hcounts : visitor.SeesValues old)
    (hd : d.Alike old d') {f : Field} (hlook : old ∨ f.Forgetful) {p p' : Pass}
    (hp : p.Alike old p') : d.visits inner visitor f p = d'.visits inner visitor f p' := by
  rw [visits, visits, hd.value, hd.slot?]
  exact Field.visits_congr hsees hcounts hd _ f hlook (hp.addAll f.name _)

/-- The visits of a pass over the fields of a document. -/
theorem visitsEach_congr (hsees : SeesValues old inner) (hcounts : visitor.SeesValues old)
    (hd : d.Alike old d') {fields : List Field} (hlook : ∀ f ∈ fields, old ∨ f.Forgetful)
    {p p' : Pass} (hp : p.Alike old p') :
    Pass.visitsEach (fun f p => d.judge inner p f) (d.visits inner visitor) fields p =
      Pass.visitsEach (fun f p => d'.judge inner p f) (d'.visits inner visitor) fields p' :=
  Pass.visitsEach_congr (fun f hf _ _ => judge_congr hsees hd (hlook f hf))
    (fun f hf _ _ => visits_congr hsees hcounts hd (hlook f hf)) hp

end Document

namespace Session

/-- Validation comes back to the same documents in heaps that are alike. -/
theorem clashesAt_congr (depth : Nat) {held : List DocRef} {r : DocRef} {s s' : Session}
    (hheap : s.heap.Alike old s'.heap) : clashesAt depth held r s = clashesAt depth held r s' := by
  induction depth generalizing held r s s' with
  | zero => rfl
  | succ depth ih =>
      rw [clashesAt, clashesAt]
      cases hd : s.heap.document? r with
      | none => rw [hheap.document?_eq_none hd]
      | some d =>
          obtain ⟨d', hd', halike⟩ := hheap.document? hd
          have hstart : Pass.Alike old ⟨s, .empty⟩ ⟨s', .empty⟩ := ⟨rfl, hheap⟩
          rw [hd']
          simp only
          rw [← halike.schema, Document.visitsEach_congr (validateAt_seesValues old depth) ih halike
            (hheap.fields hd) hstart]

end Session

/-! ### How deep validation goes -/

/-- Among `n` documents, two ways of validating embedded ones come to the same where they visit
nothing. -/
def SameUnvisited (n : Nat) (validates : DocRef → Session → List DocRef)
    (inner inner' : DocRef → Session → Session × Errors) : Prop :=
  ∀ r s, s.heap.documents.length = n → validates r s = [] → inner r s = inner' r s

theorem Pass.foldl_unvisited {α : Type} {run run' : α → Pass → Pass}
    {visits : α → Pass → List DocRef}
    (hmarks : ∀ a p, Marked p.session.heap (run a p).session.heap)
    (hstep : ∀ a {p : Pass}, p.session.heap.documents.length = n → visits a p = [] →
      run a p = run' a p) (as : List α) {p : Pass} (hn : p.session.heap.documents.length = n)
    (hnone : visitsEach run visits as p = []) :
    as.foldl (fun p a => run a p) p = as.foldl (fun p a => run' a p) p := by
  induction as generalizing p with
  | nil => rfl
  | cons a rest ih =>
      rw [visitsEach, List.append_eq_nil_iff] at hnone
      rw [List.foldl_cons, List.foldl_cons, ← hstep a hn hnone.1]
      exact ih ((hmarks a p).documents_length.trans hn) hnone.2

mutual

theorem Field.validate_unvisited (hmarks : OnlyMarks inner)
    (hsame : SameUnvisited n visitor.validates inner inner') (d : Document) (v : Value) :
    (f : Field) → {p : Pass} → p.session.heap.documents.length = n →
    f.visits inner visitor d v p = [] → f.validate inner d v p = f.validate inner' d v p
  | ⟨name, required, default?, kind⟩, p, hn, hnone => by
      rw [Field.visits] at hnone
      rw [Field.validate, Field.validate]
      exact Kind.checkItems_unvisited hmarks hsame d name v kind hn hnone
termination_by structural f => f

theorem Kind.checkItems_unvisited (hmarks : OnlyMarks inner)
    (hsame : SameUnvisited n visitor.validates inner inner') (d : Document) (name : String)
    (v : Value) : (kind : Kind) → {p : Pass} → p.session.heap.documents.length = n →
    kind.visits inner visitor d name v p = [] →
    kind.checkItems inner d name v p = kind.checkItems inner' d name v p
  | .array lengths (some check), p, hn, hnone => by
      rw [Kind.visits.eq_def] at hnone
      rw [Kind.checkItems.eq_def, Kind.checkItems.eq_def inner']
      cases v with
      | array items =>
          exact Pass.foldl_unvisited
            (fun item p => Check.run_steady hmarks.steady d (check name item) p)
            (fun item _ => Check.run_unvisited hmarks hsame d (check name item)) items hn hnone
      | _ => rfl
  | .array lengths none, p, _, _ => rfl
  | .boolean, p, _, _ => rfl
  | .dateTime, p, _, _ => rfl
  | .float range, p, _, _ => rfl
  | .integer range, p, _, _ => rfl
  | .objectId, p, _, _ => rfl
  | .string rules, p, _, _ => rfl
  | .embedded schema, p, _, _ => rfl
  | .list schema, p, _, _ => rfl
termination_by structural kind => kind

theorem Check.run_unvisited (hmarks : OnlyMarks inner)
    (hsame : SameUnvisited n visitor.validates inner inner') (d : Document) :
    (check : Check) → {p : Pass} → p.session.heap.documents.length = n →
    check.visits inner visitor d p = [] → check.run inner d p = check.run inner' d p
  | .done, p, _, _ => rfl
  | .report field message next, p, hn, hnone => by
      rw [Check.visits] at hnone
      rw [Check.run, Check.run]
      exact Check.run_unvisited hmarks hsame d next hn hnone
  | .errorsSoFar next, p, hn, hnone => by
      rw [Check.visits] at hnone
      rw [Check.run, Check.run]
      exact Check.run_unvisited hmarks hsame d (next p.errors) hn hnone
  | .fieldValue name next, p, hn, hnone => by
      rw [Check.visits] at hnone
      rw [Check.run, Check.run]
      exact Check.run_unvisited hmarks hsame d (next (d.value? name)) hn hnone
  | .ownErrors next, p, hn, hnone => by
      rw [Check.visits] at hnone
      rw [Check.run, Check.run]
      exact Check.run_unvisited hmarks hsame d (next d.errors) hn hnone
  | .errorsOf r next, p, hn, hnone => by
      rw [Check.visits, List.append_eq_nil_iff] at hnone
      rw [Check.run, Check.run]
      exact Check.run_unvisited hmarks hsame d (next (p.session.heap.errorsOf r)) hn hnone.2
  | .contents looks next, p, hn, hnone => by
      rw [Check.visits, List.append_eq_nil_iff] at hnone
      rw [Check.run, Check.run]
      exact Check.run_unvisited hmarks hsame d (next (p.session.heap.contentsOf looks)) hn hnone.2
  | .typeName v next, p, hn, hnone => by
      rw [Check.visits, List.append_eq_nil_iff] at hnone
      rw [Check.run, Check.run]
      exact Check.run_unvisited hmarks hsame d (next (p.session.heap.typeName v)) hn hnone.2
  | .delegate f v next, p, hn, hnone => by
      rw [Check.visits, List.append_eq_nil_iff] at hnone
      rw [Check.run, Check.run, ← Field.validate_unvisited hmarks hsame d v f hn hnone.1]
      have hlater := (Field.validate_steady hmarks.steady d v f p).documents_length
      exact Check.run_unvisited hmarks hsame d next (hlater.trans hn) hnone.2
  | .validate item next, p, hn, hnone => by
      rw [Check.visits] at hnone
      simp only [List.append_eq_nil_iff] at hnone
      rw [Check.run, Check.run]
      simp only [← hsame item p.session hn hnone.1]
      have hlater := (hmarks item p.session).documents_length
      exact Check.run_unvisited hmarks hsame d (next (inner item p.session).2)
        (hlater.trans hn) hnone.2
termination_by structural check => check

end

theorem Document.judge_unvisited (hmarks : OnlyMarks inner)
    (hsame : SameUnvisited n visitor.validates inner inner') (d : Document) (f : Field) {p : Pass}
    (hn : p.session.heap.documents.length = n) (hnone : d.visits inner visitor f p = []) :
    d.judge inner p f = d.judge inner' p f := by
  rw [visits] at hnone
  rw [judge, judge]
  exact Field.validate_unvisited hmarks hsame d _ f hn hnone

namespace Session

/-- Unless it comes back to a document that is held, validation can only go as deep as there are
other documents. -/
theorem validateAt_unclashed {held : List DocRef} {depth : Nat} (hnodup : held.Nodup)
    (hheld : ∀ q ∈ held, q.index < n) (hdepth : n ≤ depth + held.length) (more : Nat) :
    SameUnvisited n (clashesAt depth held) (validateAt depth) (validateAt (depth + more)) := by
  induction depth generalizing held with
  | zero =>
      intro r s hn hnone
      have hout : r ∉ held := by simpa [clashesAt] using hnone
      have hd : s.heap.document? r = none := by
        by_contra hsome
        -- otherwise `r` is one more document than there are
        have hle := length_le_of_nodup (h := s.heap) (List.nodup_cons.mpr ⟨hout, hnodup⟩)
          (List.forall_mem_cons.mpr ⟨Option.isSome_iff_ne_none.mpr hsome, fun q hq => by
            simpa [document?, hn] using hheld q hq⟩)
        rw [List.length_cons] at hle
        omega
      cases more with
      | zero => rfl
      | succ more => rw [Nat.zero_add, validateAt, validateAt, hd]
  | succ depth ih =>
      intro r s hn hnone
      rw [Nat.add_right_comm, validateAt, validateAt]
      simp only [clashesAt] at hnone
      cases hd : s.heap.document? r with
      | none => rfl
      | some d =>
          by_cases hr : r ∈ held
          · simp [hr] at hnone
          · rw [if_neg hr, hd] at hnone
            have hlt : r.index < n := hn ▸ document?_lt hd
            have hsame := ih (List.nodup_cons.mpr ⟨hr, hnodup⟩)
              (List.forall_mem_cons.mpr ⟨hlt, hheld⟩) (by rw [List.length_cons]; omega)
            have hpass := Pass.foldl_unvisited
              (fun f p => Document.judge_steady (validateAt_marked depth).steady d p f)
              (fun f _ => Document.judge_unvisited (validateAt_marked depth) hsame d f)
              d.schema.fields hn hnone
            simp only
            rw [hpass]

/-- A validation that comes back to nothing is the same to any greater depth. -/
theorem validateAt_eq_of_clashes {s : Session} {r : DocRef} (hends : s.clashes r = [])
    {depth : Nat} (hdepth : s.heap.documents.length ≤ depth) :
    s.validateAt depth r = s.validateAt s.heap.documents.length r := by
  obtain ⟨more, rfl⟩ := Nat.exists_eq_add_of_le hdepth
  exact (validateAt_unclashed .nil (by simp) (by simp) more r s rfl hends).symm

end Session

end DocumentModel
