/-
What validation sees.

Validation itself looks at types, values and lists, never at errors that were there before.  Only
item checks can.  Where none of them does, validation finds the same errors in two heaps that differ
in errors only; and where they do, it still finds the same in the same heap, whatever has been
logged.  No error is ever taken back; hence a document is valid exactly if each of its fields is in
order when its turn comes.
-/
import DocumentModel.Proofs.Assignment
import DocumentModel.Proofs.Validation

namespace DocumentModel

theorem Errors.isEmpty_iff (e : Errors) : e.isEmpty = true ↔ e = .empty := by
  obtain ⟨entries⟩ := e
  simp [isEmpty, empty]

/-- The document without its errors. -/
def Document.cleared (d : Document) : Document :=
  { d with errors := .empty }

mutual

/-- The item check of a field does not look at errors from before the validation. -/
def Field.Forgetful (f : Field) : Prop :=
  match f with
  | ⟨_, _, _, kind⟩ => kind.Forgetful
termination_by structural f

def Kind.Forgetful (kind : Kind) : Prop :=
  match kind with
  | .array _ (some check) => ∀ name item, (check name item).Forgetful
  | _ => True
termination_by structural kind

/-- An item check looks at no errors but those that are found in the course of the validation. -/
def Check.Forgetful (c : Check) : Prop :=
  match c with
  | .done => True
  | .report _ _ next => next.Forgetful
  | .errorsSoFar next => ∀ e, (next e).Forgetful
  | .fieldValue _ next => ∀ v?, (next v?).Forgetful
  | .ownErrors _ => False
  | .errorsOf _ _ => False
  | .contents _ next => ∀ contents, (next contents).Forgetful
  | .typeName _ next => ∀ name, (next name).Forgetful
  | .delegate f _ next => f.Forgetful ∧ next.Forgetful
  | .validate _ next => ∀ e, (next e).Forgetful
termination_by structural c

end

namespace Heap

variable {old : Prop} {h h' later : Heap}

/-- No document has an item check that looks at errors from before. -/
def Forgetful (h : Heap) : Prop :=
  ∀ {r d}, h.document? r = some d → ∀ f ∈ d.schema.fields, f.Forgetful

/-- The heap without the errors of its documents. -/
def cleared (h : Heap) : Heap :=
  { h with documents := h.documents.map Document.cleared }

theorem document?_cleared (h : Heap) (r : DocRef) :
    h.cleared.document? r = (h.document? r).map Document.cleared := by
  simp [cleared, document?]

theorem typeName_cleared (h : Heap) (v : Value) : h.cleared.typeName v = h.typeName v := by
  cases v with
  | document r =>
      rw [typeName, typeName, documentType, documentType, document?_cleared, Option.map_map]
      rfl
  | _ => rfl

theorem contents_cleared (h : Heap) : h.cleared.contents = h.contents := by
  rw [contents, contents]
  congr 1
  funext r
  rw [document?_cleared, Option.map_map]
  rfl

/-- Two heaps that differ in errors only have the same documents, errors apart. -/
theorem document?_of_cleared_eq (hsame : h.cleared = h'.cleared) {r : DocRef} {d : Document}
    (hd : h.document? r = some d) :
    ∃ d', h'.document? r = some d' ∧ d'.schema = d.schema ∧ d'.slots = d.slots := by
  have hmap : (h'.document? r).map Document.cleared = some d.cleared := by
    rw [← document?_cleared, ← hsame, document?_cleared, hd]
    rfl
  obtain ⟨d', hd', heq⟩ := Option.map_eq_some_iff.mp hmap
  have hschema : d'.cleared.schema = d.cleared.schema := by rw [heq]
  have hslots : d'.cleared.slots = d.cleared.slots := by rw [heq]
  exact ⟨d', hd', hschema, hslots⟩

theorem document?_eq_none_of_cleared_eq (hsame : h.cleared = h'.cleared) {r : DocRef}
    (hnone : h.document? r = none) : h'.document? r = none := by
  rw [← Option.map_eq_none_iff (f := Document.cleared), ← document?_cleared, ← hsame,
    document?_cleared, hnone]
  rfl

theorem lists_of_cleared_eq (hsame : h.cleared = h'.cleared) : h.lists = h'.lists := by
  change h.cleared.lists = h'.cleared.lists
  rw [hsame]

theorem Marked.cleared_eq (hmarked : Marked h later) : later.cleared = h.cleared := by
  induction hmarked with
  | refl => rfl
  | @tail mid _ _ hmarks ih =>
      rw [← ih]
      cases hmarks with
      | @errors r d hd e =>
          have hput : (mid.documents.set r.index { d with errors := e }).map Document.cleared =
              (mid.putDocument r d).documents.map Document.cleared := by
            rw [putDocument, List.map_set, List.map_set]
            rfl
          rw [cleared, putDocument, hput, putDocument_self hd]
          rfl

theorem Marked.forgetful (hmarked : Marked h later) (hforgets : h.Forgetful) :
    later.Forgetful := by
  intro r d hd
  obtain ⟨d', hd', hschema, _⟩ := document?_of_cleared_eq hmarked.cleared_eq hd
  rw [← hschema]
  exact hforgets hd'

/-- Two heaps are the same if errors from before count.  If not, they may differ in them, and no
item check looks at them. -/
structure Alike (old : Prop) (h h' : Heap) : Prop where
  cleared : h.cleared = h'.cleared
  same : old → h = h'
  forgetful : old ∨ h.Forgetful

theorem Alike.refl (h : Heap) : h.Alike True h :=
  ⟨rfl, fun _ => rfl, Or.inl trivial⟩

theorem Alike.of_cleared_eq (hsame : h.cleared = h'.cleared) (hforgets : h.Forgetful) :
    h.Alike False h' :=
  ⟨hsame, False.elim, Or.inr hforgets⟩

end Heap

open Heap

/-- What is wrong with a value is a matter of the value and of the lists. -/
theorem Field.messages_congr {h h' : Heap} (hlists : h.lists = h'.lists) (f : Field)
    (v : Value) : f.messages h v = f.messages h' v := by
  have habsent : f.isAbsent h v = f.isAbsent h' v := by
    simp only [isAbsent, Heap.items, list?, hlists]
  rw [messages, messages, habsent]

namespace Pass

/-- Two passes have found the same errors in heaps that are alike. -/
structure Alike (old : Prop) (p p' : Pass) : Prop where
  errors : p.errors = p'.errors
  heap : p.session.heap.Alike old p'.session.heap

variable {old : Prop} {p p' : Pass}

theorem entries_addAll (p : Pass) (field : String) (messages : List String) :
    (p.addAll field messages).errors.entries =
      p.errors.entries ++ messages.map fun m => (field, m) := by
  have hfold : ∀ e : Errors, (messages.foldl (fun e m => e.add field m) e).entries =
      e.entries ++ messages.map fun m => (field, m) := by
    induction messages with
    | nil => simp
    | cons m rest ih =>
        intro e
        rw [List.foldl_cons, ih]
        simp [Errors.add]
  exact hfold p.errors

theorem addAll_addAll (p : Pass) (field : String) (first second : List String) :
    (p.addAll field first).addAll field second = p.addAll field (first ++ second) := by
  simp only [addAll, List.foldl_append]

theorem Alike.addAll (hp : p.Alike old p') (field : String) (messages : List String) :
    (p.addAll field messages).Alike old (p'.addAll field messages) :=
  ⟨by rw [Pass.addAll, Pass.addAll, hp.errors], hp.heap⟩

namespace Alike

theorem report (hp : p.Alike old p') (field message : String) :
    Alike old { p with errors := p.errors.add field message }
      { p' with errors := p'.errors.add field message } :=
  ⟨congrArg (Errors.add · field message) hp.errors, hp.heap⟩

theorem contents (hp : p.Alike old p') :
    p.session.heap.contents = p'.session.heap.contents := by
  rw [← contents_cleared, hp.heap.cleared, contents_cleared]

theorem contentsOf (hp : p.Alike old p') (looks : Contents → List DocRef) :
    p.session.heap.contentsOf looks = p'.session.heap.contentsOf looks := by
  rw [Heap.contentsOf, Heap.contentsOf, hp.contents]

theorem typeName (hp : p.Alike old p') (v : Value) :
    p.session.heap.typeName v = p'.session.heap.typeName v := by
  rw [← typeName_cleared, hp.heap.cleared, typeName_cleared]

theorem errorsOf (hp : p.Alike old p') (hold : old) (r : DocRef) :
    p.session.heap.errorsOf r = p'.session.heap.errorsOf r := by
  rw [hp.heap.same hold]

end Alike

/-- What a pass goes on to do takes back no error. -/
def Before (p later : Pass) : Prop :=
  p.errors.entries <+: later.errors.entries

theorem Before.refl (p : Pass) : p.Before p :=
  List.prefix_rfl

theorem Before.trans {q later : Pass} (hpq : p.Before q) (hq : q.Before later) :
    p.Before later :=
  List.IsPrefix.trans hpq hq

theorem before_addAll (p : Pass) (field : String) (messages : List String) :
    p.Before (p.addAll field messages) := by
  rw [Before, entries_addAll]
  exact List.prefix_append _ _

/-- Nothing is wrong so far if nothing is wrong later. -/
theorem Before.errors_eq_empty {later : Pass} (hbefore : p.Before later)
    (hlater : later.errors = .empty) : p.errors = .empty := by
  rw [Before, hlater] at hbefore
  exact congrArg Errors.mk (List.prefix_nil.mp hbefore)

theorem before_steady (inner : DocRef → Session → Session × Errors) : Steady inner Before where
  refl := .refl
  trans := .trans
  report _ _ _ := List.prefix_append _ _
  inner := fun p _ => .refl p

end Pass

/-- Validating an embedded document finds the same errors in heaps that are alike, and leaves them
alike. -/
structure SeesValues (old : Prop) (inner : DocRef → Session → Session × Errors) : Prop where
  errors : ∀ {r} {s s' : Session}, s.heap.Alike old s'.heap → (inner r s).2 = (inner r s').2
  heap : ∀ {r} {s s' : Session}, s.heap.Alike old s'.heap →
    (inner r s).1.heap.Alike old (inner r s').1.heap

variable {old : Prop} {inner : DocRef → Session → Session × Errors} {d d' : Document}

/-- Two documents are of one type and hold the same.  They have the same errors if those count. -/
structure Document.Alike (old : Prop) (d d' : Document) : Prop where
  schema : d.schema = d'.schema
  slots : d.slots = d'.slots
  errors : old → d.errors = d'.errors

namespace Document.Alike

theorem slot? (hd : d.Alike old d') (name : String) : d.slot? name = d'.slot? name := by
  rw [Document.slot?, Document.slot?, hd.slots]

theorem value? (hd : d.Alike old d') (name : String) : d.value? name = d'.value? name := by
  rw [Document.value?, Document.value?, hd.slot?]

theorem value (hd : d.Alike old d') (name : String) : d.value name = d'.value name := by
  rw [Document.value, Document.value, hd.value?]

end Document.Alike

theorem Heap.Alike.document? {h h' : Heap} (hh : h.Alike old h') {r : DocRef}
    (hd : h.document? r = some d) : ∃ d', h'.document? r = some d' ∧ d.Alike old d' := by
  obtain ⟨d', hd', hschema, hslots⟩ := document?_of_cleared_eq hh.cleared hd
  refine ⟨d', hd', hschema.symm, hslots.symm, fun hold => ?_⟩
  rw [← hh.same hold, hd] at hd'
  rw [Option.some.inj hd']

theorem Heap.Alike.document?_eq_none {h h' : Heap} (hh : h.Alike old h') {r : DocRef}
    (hnone : h.document? r = none) : h'.document? r = none :=
  document?_eq_none_of_cleared_eq hh.cleared hnone

theorem Heap.Alike.fields {h h' : Heap} (hh : h.Alike old h') {r : DocRef}
    (hd : h.document? r = some d) : ∀ f ∈ d.schema.fields, old ∨ f.Forgetful :=
  fun f hf => hh.forgetful.imp_right fun hforgets => hforgets hd f hf

mutual

theorem Field.validate_congr (hsees : SeesValues old inner) (hd : d.Alike old d') (v : Value) :
    (f : Field) → old ∨ f.Forgetful → {p p' : Pass} → p.Alike old p' →
    (f.validate inner d v p).Alike old (f.validate inner d' v p')
  | ⟨name, required, default?, kind⟩, hlook, p, p', hp => by
      rw [Field.validate, Field.validate,
        Field.messages_congr (lists_of_cleared_eq hp.heap.cleared)]
      exact Kind.checkItems_congr hsees hd name v kind hlook (hp.addAll name _)
termination_by structural f => f

theorem Kind.checkItems_congr (hsees : SeesValues old inner) (hd : d.Alike old d')
    (name : String) (v : Value) : (kind : Kind) → old ∨ kind.Forgetful → {p p' : Pass} →
    p.Alike old p' →
    (kind.checkItems inner d name v p).Alike old (kind.checkItems inner d' name v p')
  | .array lengths (some check), hlook, p, p', hp => by
      rw [Kind.checkItems.eq_def, Kind.checkItems.eq_def inner d']
      cases v with
      | array items =>
          simp only
          revert hp
          induction items generalizing p p' with
          | nil => exact id
          | cons item rest ih =>
              exact fun hp => ih _ _ (Check.run_congr hsees hd (check name item)
                (hlook.imp_right fun h => h name item) hp)
      | _ => exact hp
  | .array lengths none, _, p, p', hp => hp
  | .boolean, _, p, p', hp => hp
  | .dateTime, _, p, p', hp => hp
  | .float range, _, p, p', hp => hp
  | .integer range, _, p, p', hp => hp
  | .objectId, _, p, p', hp => hp
  | .string rules, _, p, p', hp => hp
  | .embedded schema, _, p, p', hp => hp
  | .list schema, _, p, p', hp => hp
termination_by structural kind => kind

/-- An item check is told the same, unless it asks for errors from before. -/
theorem Check.run_congr (hsees : SeesValues old inner) (hd : d.Alike old d') :
    (check : Check) → old ∨ check.Forgetful → {p p' : Pass} → p.Alike old p' →
    (check.run inner d p).Alike old (check.run inner d' p')
  | .done, _, p, p', hp => hp
  | .report field message next, hlook, p, p', hp => by
      rw [Check.run, Check.run]
      exact Check.run_congr hsees hd next hlook (hp.report field message)
  | .errorsSoFar next, hlook, p, p', hp => by
      rw [Check.run, Check.run, hp.errors]
      exact Check.run_congr hsees hd (next p'.errors) (hlook.imp_right fun h => h _) hp
  | .fieldValue name next, hlook, p, p', hp => by
      rw [Check.run, Check.run, hd.value?]
      exact Check.run_congr hsees hd (next (d'.value? name)) (hlook.imp_right fun h => h _) hp
  | .ownErrors next, hlook, p, p', hp => by
      have hold : old := hlook.resolve_right id
      rw [Check.run, Check.run, hd.errors hold]
      exact Check.run_congr hsees hd (next d'.errors) (Or.inl hold) hp
  | .errorsOf r next, hlook, p, p', hp => by
      have hold : old := hlook.resolve_right id
      rw [Check.run, Check.run, hp.errorsOf hold]
      exact Check.run_congr hsees hd (next (p'.session.heap.errorsOf r)) (Or.inl hold) hp
  | .contents looks next, hlook, p, p', hp => by
      rw [Check.run, Check.run, hp.contentsOf]
      exact Check.run_congr hsees hd (next (p'.session.heap.contentsOf looks))
        (hlook.imp_right fun h => h _) hp
  | .typeName v next, hlook, p, p', hp => by
      rw [Check.run, Check.run, hp.typeName]
      exact Check.run_congr hsees hd (next (p'.session.heap.typeName v))
        (hlook.imp_right fun h => h _) hp
  | .delegate f v next, hlook, p, p', hp => by
      rw [Check.run, Check.run]
      exact Check.run_congr hsees hd next (hlook.imp_right And.right)
        (Field.validate_congr hsees hd v f (hlook.imp_right And.left) hp)
  | .validate item next, hlook, p, p', hp => by
      rw [Check.run, Check.run]
      simp only [hsees.errors hp.heap]
      exact Check.run_congr hsees hd (next (inner item p'.session).2)
        (hlook.imp_right fun h => h _) ⟨hp.errors, hsees.heap hp.heap⟩
termination_by structural check => check

end

namespace Document

/-- Was the last assignment to a field refused for its structure? -/
def refused (d : Document) (name : String) : Bool :=
  ((d.slot? name).map (·.rejected)).getD false

/-- What is wrong with a field of a document, item checks apart. -/
def faults (h : Heap) (d : Document) (f : Field) : List String :=
  (if d.refused f.name then [notAList] else []) ++ f.messages h (d.value f.name)

theorem faults_congr {h h' : Heap} (hlists : h.lists = h'.lists) {f : Field}
    (hslot : d.slot? f.name = d'.slot? f.name) : d.faults h f = d'.faults h' f := by
  rw [faults, faults, refused, refused, value, value, value?, value?, hslot,
    Field.messages_congr hlists]

/-- To judge a field is to report what is wrong with it and then to check its items. -/
theorem judge_eq (inner : DocRef → Session → Session × Errors) (d : Document) (p : Pass)
    (f : Field) : d.judge inner p f = f.kind.checkItems inner d f.name (d.value f.name)
      (p.addAll f.name (d.faults p.session.heap f)) := by
  obtain ⟨name, required, default?, kind⟩ := f
  rw [judge, Field.validate, faults, ← Pass.addAll_addAll]
  rfl

theorem judge_congr (hsees : SeesValues old inner) (hd : d.Alike old d') {f : Field}
    (hlook : old ∨ f.Forgetful) {p p' : Pass} (hp : p.Alike old p') :
    (d.judge inner p f).Alike old (d'.judge inner p' f) := by
  rw [judge, judge, hd.value, hd.slot?]
  exact Field.validate_congr hsees hd _ f hlook (hp.addAll f.name _)

/-- Judging some fields, one after the other. -/
theorem foldl_judge_congr (hsees : SeesValues old inner) (hd : d.Alike old d')
    {fields : List Field} (hlook : ∀ f ∈ fields, old ∨ f.Forgetful) {p p' : Pass}
    (hp : p.Alike old p') :
    (fields.foldl (d.judge inner) p).Alike old (fields.foldl (d'.judge inner) p') := by
  induction fields generalizing p p' with
  | nil => exact hp
  | cons f rest ih =>
      obtain ⟨hfirst, hrest⟩ := List.forall_mem_cons.mp hlook
      exact ih hrest (judge_congr hsees hd hfirst hp)

/-- A field is in order if no rule of it is broken and its item check has nothing to say. -/
theorem judge_eq_empty_iff (inner : DocRef → Session → Session × Errors) (d : Document)
    (f : Field) {p : Pass} (hp : p.errors = .empty) :
    (d.judge inner p f).errors = .empty ↔ d.faults p.session.heap f = [] ∧
      (f.kind.checkItems inner d f.name (d.value f.name) p).errors = .empty := by
  rw [judge_eq]
  constructor
  · intro hempty
    have hfaults : d.faults p.session.heap f = [] := by
      have hentries := congrArg Errors.entries
        ((Kind.checkItems_steady (Pass.before_steady inner) d f.name _ f.kind _).errors_eq_empty
          hempty)
      rw [Pass.entries_addAll, hp] at hentries
      simpa [Errors.empty] using hentries
    rw [hfaults] at hempty
    exact ⟨hfaults, hempty⟩
  · rintro ⟨hfaults, hitems⟩
    rw [hfaults]
    exact hitems

/-- Nothing is wrong with some fields if nothing is wrong with any of them, each judged when its
turn comes. -/
theorem foldl_judge_eq_empty_iff (hmarks : OnlyMarks inner) (d : Document) (fields : List Field)
    {p : Pass} (hp : p.errors = .empty) :
    (fields.foldl (d.judge inner) p).errors = .empty ↔
      ∀ before f after, fields = before ++ f :: after → d.faults p.session.heap f = [] ∧
        (f.kind.checkItems inner d f.name (d.value f.name)
          ⟨(before.foldl (d.judge inner) p).session, .empty⟩).errors = .empty := by
  induction fields generalizing p with
  | nil => simp [hp]
  | cons first rest ih =>
      have hstart : p = ⟨p.session, .empty⟩ := by rw [← hp]
      have hfirst := judge_eq_empty_iff inner d first hp
      have hlists := (d.judge_steady hmarks.steady p first).lists
      rw [List.foldl_cons]
      constructor
      · intro hlater before f after heq
        have hclean : (d.judge inner p first).errors = .empty :=
          (d.foldl_judge_steady (Pass.before_steady inner) rest _).errors_eq_empty hlater
        cases before with
        | nil =>
            obtain ⟨rfl, rfl⟩ := List.cons.inj heq
            exact hstart ▸ hfirst.mp hclean
        | cons first' before =>
            obtain ⟨rfl, hrest⟩ := List.cons.inj heq
            obtain ⟨hfaults, hitems⟩ := (ih hclean).mp hlater before f after hrest
            exact ⟨(faults_congr hlists.symm rfl).trans hfaults, hitems⟩
      · intro hall
        have hclean : (d.judge inner p first).errors = .empty :=
          hfirst.mpr (hstart ▸ hall [] first rest rfl)
        refine (ih hclean).mpr fun before f after heq => ?_
        obtain ⟨hfaults, hitems⟩ := hall (first :: before) f after (by rw [heq]; rfl)
        exact ⟨(faults_congr hlists rfl).trans hfaults, hitems⟩

end Document

namespace Session

theorem putErrors_congr {s s' : Session} (hheap : s.heap.Alike old s'.heap) (r : DocRef)
    (e : Errors) : (s.putErrors r e).heap.Alike old (s'.putErrors r e).heap where
  cleared := by
    rw [(putErrors_marked s r e).cleared_eq, (putErrors_marked s' r e).cleared_eq, hheap.cleared]
  same hold := by
    have hsame := hheap.same hold
    rw [putErrors, putErrors, hsame]
    split
    · exact hsame
    · rfl
  forgetful := hheap.forgetful.imp_right (putErrors_marked s r e).forgetful

/-- Validation finds the same in heaps that are alike.  What has been logged does not count. -/
theorem validateAt_seesValues (old : Prop) (depth : Nat) : SeesValues old (validateAt depth) := by
  induction depth with
  | zero => exact ⟨fun _ => rfl, fun hheap => hheap⟩
  | succ depth ih =>
      have hstep : ∀ {r} {s s' : Session}, s.heap.Alike old s'.heap →
          (validateAt (depth + 1) r s).2 = (validateAt (depth + 1) r s').2 ∧
            (validateAt (depth + 1) r s).1.heap.Alike old
              (validateAt (depth + 1) r s').1.heap := by
        intro r s s' hheap
        rw [validateAt, validateAt]
        cases hd : s.heap.document? r with
        | none =>
            rw [hheap.document?_eq_none hd]
            exact ⟨rfl, hheap⟩
        | some d =>
            obtain ⟨d', hd', halike⟩ := hheap.document? hd
            rw [hd']
            have hstart : Pass.Alike old ⟨s, .empty⟩ ⟨s', .empty⟩ := ⟨rfl, hheap⟩
            have hpass := Document.foldl_judge_congr ih halike (hheap.fields hd) hstart
            simp only [← halike.schema]
            generalize d.schema.fields.foldl (d.judge (validateAt depth)) ⟨s, .empty⟩ = p at hpass
            generalize d.schema.fields.foldl (d'.judge (validateAt depth)) ⟨s', .empty⟩ = p'
              at hpass
            have hput := putErrors_congr hpass.heap r p.errors
            refine ⟨hpass.errors, ?_⟩
            simp only [← hpass.errors]
            split <;> exact hput
      exact ⟨fun hheap => (hstep hheap).1, fun hheap => (hstep hheap).2⟩

/-- What validation finds and leaves is the same in heaps that are alike. -/
theorem validate_congr {s s' : Session} (hheap : s.heap.Alike old s'.heap) (r : DocRef) :
    (s.validate r).1 = (s'.validate r).1 ∧
      (s.validate r).2.heap.Alike old (s'.validate r).2.heap := by
  have hlength : s.heap.documents.length = s'.heap.documents.length := by
    have hmap := congrArg (fun h => h.documents.length) hheap.cleared
    simpa [cleared] using hmap
  have hsees := validateAt_seesValues old s'.heap.documents.length
  rw [validate, validate, hlength]
  exact ⟨congrArg Errors.isEmpty (hsees.errors hheap), hsees.heap hheap⟩

/-- What the item check of a field reports, if there is one, when its turn comes: the fields before
it have been judged. -/
def itemErrors (s : Session) (d : Document) (f : Field) : Errors :=
  let inner := validateAt (s.heap.documents.length - 1)
  let earlier := d.schema.fields.takeWhile fun g => g.name ≠ f.name
  let s := (earlier.foldl (d.judge inner) ⟨s, .empty⟩).session
  (f.kind.checkItems inner d f.name (d.value f.name) ⟨s, .empty⟩).errors

/-- Validation leaves in a document the errors that it finds there. -/
theorem document?_validateAt (depth : Nat) {s : Session} {r : DocRef} {d : Document}
    (hd : s.heap.document? r = some d) :
    (s.validateAt (depth + 1) r).2 =
      (d.schema.fields.foldl (d.judge (validateAt depth)) ⟨s, .empty⟩).errors ∧
    (s.validateAt (depth + 1) r).1.heap.document? r =
      some { d with errors := (s.validateAt (depth + 1) r).2 } := by
  obtain ⟨e, he⟩ := (d.foldl_judge_steady (validateAt_marked depth).steady d.schema.fields
    ⟨s, .empty⟩).document? hd
  rw [validateAt, hd]
  refine ⟨rfl, ?_⟩
  simp only
  generalize d.schema.fields.foldl (d.judge (validateAt depth)) ⟨s, .empty⟩ = p at he
  have hput : (p.session.putErrors r p.errors).heap.document? r =
      some { d with errors := p.errors } := by
    rw [putErrors, he]
    exact document?_putDocument_self _ _ (by rw [he]; rfl)
  split <;> exact hput

/-- Where names are different, the fields before one are those up to the first of its name. -/
theorem takeWhile_eq_of_nodup {before after : List Field} {f : Field}
    (hnodup : ((before ++ f :: after).map (·.name)).Nodup) :
    (before ++ f :: after).takeWhile (fun g => g.name ≠ f.name) = before := by
  have hne : ∀ g ∈ before, g.name ≠ f.name := by
    intro g hg heq
    rw [List.map_append, List.nodup_append] at hnodup
    exact hnodup.2.2 g.name (List.mem_map_of_mem hg) f.name (by simp) heq
  rw [List.takeWhile_append_of_pos (fun g hg => by simpa using hne g hg)]
  simp

/-- A document is valid exactly if each of its fields is in order. -/
theorem validate_eq_true_iff {s : Session} {r : DocRef} {d : Document}
    (hd : s.heap.document? r = some d) (hnodup : d.schema.fieldNames.Nodup) :
    (s.validate r).1 = true ↔
      ∀ f ∈ d.schema.fields, d.faults s.heap f = [] ∧ s.itemErrors d f = .empty := by
  have hlt := document?_lt hd
  obtain ⟨depth, hdepth⟩ : ∃ depth, s.heap.documents.length = depth + 1 :=
    ⟨s.heap.documents.length - 1, by omega⟩
  have hturn : ∀ before f after, d.schema.fields = before ++ f :: after →
      s.itemErrors d f = (f.kind.checkItems (validateAt depth) d f.name (d.value f.name)
        ⟨(before.foldl (d.judge (validateAt depth)) ⟨s, .empty⟩).session, .empty⟩).errors := by
    intro before f after heq
    rw [Schema.fieldNames, heq] at hnodup
    rw [itemErrors, hdepth, Nat.add_sub_cancel, heq, takeWhile_eq_of_nodup hnodup]
  rw [validate, hdepth]
  simp only [Errors.isEmpty_iff, (document?_validateAt depth hd).1]
  rw [Document.foldl_judge_eq_empty_iff (validateAt_marked depth) d d.schema.fields rfl]
  constructor
  · intro hall f hf
    obtain ⟨before, after, heq⟩ := List.append_of_mem hf
    exact hturn before f after heq ▸ hall before f after heq
  · intro hall before f after heq
    have hf : f ∈ d.schema.fields := heq ▸ List.mem_append_right _ List.mem_cons_self
    exact hturn before f after heq ▸ hall f hf

end Session

end DocumentModel
