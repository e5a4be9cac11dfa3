/-
Validity after a save.

A save validates a document first and then puts its time into fields.  A field that is of another
kind, or whose rules the written time breaks, is no longer in order.  So what is written is valid
exactly if every field that took the time can take it, and no item check objects to the outcome.
-/
import DocumentModel.Proofs.DateText
import DocumentModel.Proofs.Reachable
import DocumentModel.Proofs.Stamping
import DocumentModel.Proofs.Validity
import Mathlib.Data.List.Induction

namespace DocumentModel

/-- Does a field of a kind break no rule once a time was assigned to it?  Fields for documents keep
what they hold; a text has to be of the right length and format. -/
def Kind.takesTime (now : Instant) : Kind → Bool
  | .dateTime => true
  | .embedded _ => true
  | .list _ => true
  | .string rules =>
      (rules.lengths.messages (Time.rfc3339 now).length "characters").isEmpty &&
        rules.pattern?.all fun p => p.isMatch (Time.rfc3339 now)
  | _ => false

/-- The names of the fields that a save puts its time into. -/
def Store.timeFields (store : Store) (isNew : Bool) : List String :=
  store.config.modifiedField :: if isNew then [store.config.createdField] else []

open Heap

namespace Document

variable {d : Document} {f : Field} {name : String}

theorem isSome_slot?_timed (now : Instant) (hfield : d.schema.field? f.name = some f)
    (hslot : (d.slot? f.name).isSome = true) (name : String) :
    ((d.timed now name).slot? f.name).isSome = true := by
  by_cases hname : f.name = name
  · subst hname
    obtain ⟨slot, hslot⟩ := Option.isSome_iff_exists.mp hslot
    rw [slot?_timed_self now hfield hslot]
    rfl
  · rw [slot?_timed_of_ne now d hname]
    exact hslot

theorem faults_of_slot? (h : Heap) {slot : Slot} (hslot : d.slot? f.name = some slot) :
    d.faults h f =
      (if slot.rejected then [notAList] else []) ++ f.messages h slot.value := by
  rw [faults, refused, value_of_slot? hslot, hslot]
  rfl

/-- Whether a field is in order that a time was put into is a matter of its kind. -/
theorem faults_timed_eq_nil_iff (h : Heap) (now : Instant)
    (hfield : d.schema.field? f.name = some f) {slot : Slot}
    (hslot : d.slot? f.name = some slot) (hplain : f.kind.schema? = none) :
    (d.timed now f.name).faults h f = [] ↔ f.kind.takesTime now = true := by
  rw [faults_of_slot? h (slot?_timed_self now hfield hslot)]
  obtain ⟨name, required, default?, kind⟩ := f
  cases kind with
  | string rules =>
      have hbare := Text.trim_eq_self (Time.rfc3339_bare now)
      have hpresent : (Time.rfc3339 now).isEmpty = false := by
        simp [String.isEmpty_eq_false_iff, ← String.toList_inj, Time.rfc3339]
      cases hpattern : rules.pattern? <;>
        simp [Kind.timed, Assignment.apply, Field.messages, Field.isAbsent, hbare, hpresent,
          Kind.messages, Kind.takesTime, Value.asText?, hpattern]
  | embedded schema => simp [Kind.schema?] at hplain
  | list schema => simp [Kind.schema?] at hplain
  | array lengths check? => simp [Kind.timed, Assignment.apply, Kind.takesTime]
  | _ =>
      simp [Kind.timed, Assignment.apply, Field.messages, Field.isAbsent, Kind.messages,
        Kind.takesTime, Value.isNull, Value.asBool?, Value.asInstant?, Value.asFloat?,
        Value.asInt?, Value.asObjectId?]

theorem schema_foldl_timed (now : Instant) (d : Document) (names : List String) :
    (names.foldl (timed now) d).schema = d.schema := by
  induction names generalizing d with
  | nil => rfl
  | cons name rest ih => rw [List.foldl_cons, ih, schema_timed]

theorem isSome_slot?_foldl_timed (now : Instant) (hfield : d.schema.field? f.name = some f)
    (hslot : (d.slot? f.name).isSome = true) (names : List String) :
    ((names.foldl (timed now) d).slot? f.name).isSome = true := by
  induction names generalizing d with
  | nil => exact hslot
  | cons name rest ih =>
      exact ih (by rw [schema_timed]; exact hfield) (isSome_slot?_timed now hfield hslot name)

/-- A field that is in order stays so exactly if it can take the times that are put into it. -/
theorem faults_foldl_timed_eq_nil_iff (h : Heap) (now : Instant)
    (hfield : d.schema.field? f.name = some f) (hslot : (d.slot? f.name).isSome = true)
    (hfaults : d.faults h f = []) (names : List String) :
    (names.foldl (timed now) d).faults h f = [] ↔
      (f.name ∈ names → f.kind.takesTime now = true) := by
  induction names using List.reverseRecOn with
  | nil => simp [hfaults]
  | append_singleton names name ih =>
      have hsame : (names.foldl (timed now) d).schema.field? f.name = some f := by
        rw [schema_foldl_timed]
        exact hfield
      rw [List.foldl_append, List.foldl_cons, List.foldl_nil, List.mem_append, List.mem_singleton]
      by_cases hheld : f.kind.schema? = none
      · by_cases hname : f.name = name
        · -- what was put there before is replaced
          obtain ⟨slot, hslot⟩ := Option.isSome_iff_exists.mp
            (isSome_slot?_foldl_timed now hfield hslot names)
          subst hname
          rw [faults_timed_eq_nil_iff h now hsame hslot hheld]
          simp
        · rw [faults_congr rfl (slot?_timed_of_ne now _ hname), ih]
          simp [hname]
      · have htakes : f.kind.takesTime now = true := by
          cases hkind : f.kind <;> simp [hkind, Kind.schema?] at hheld <;> rfl
        rw [faults_congr rfl (slot?_timed_of_schema? now _ name hsame hheld), ih]
        simp [htakes]

end Document

namespace Store

variable {h : Heap} {s : Session} {r : DocRef} {d : Document}

theorem document?_foldl_stamp (hd : h.document? r = some d) (now : Instant)
    (names : List String) :
    (names.foldl (fun h name => stamp h r name now) h).document? r =
        some (names.foldl (Document.timed now) d) ∧
      (names.foldl (fun h name => stamp h r name now) h).lists = h.lists := by
  induction names generalizing h d with
  | nil => exact ⟨hd, rfl⟩
  | cons name rest ih =>
      obtain ⟨hdocument, hlists⟩ := ih (document?_stamp hd name now)
      exact ⟨hdocument, hlists.trans (lists_stamp hd name now)⟩

/-- Whether a write succeeds or not, it puts the time into the fields that are to take it. -/
theorem heap_write (store : Store) (p : Persisted) (now : Instant) (fresh : ObjectId)
    (took : String) (s : Session) : (store.write p now fresh took s).session.heap =
      (store.timeFields p.isNew).foldl (fun h name => stamp h p.document name now) s.heap := by
  obtain ⟨r, id?⟩ := p
  cases id? with
  | none => simp [write, timeFields, Persisted.isNew, heap_log]
  | some id =>
      rw [write]
      simp only
      split
      · rfl
      · rw [heap_log]
        rfl

/-- A save that succeeds found the document valid and then put its time into fields, in order. -/
theorem save_document {store : Store} {p : Persisted} {now : Instant} {fresh : ObjectId}
    {took : String} (hd : s.heap.document? p.document = some d)
    (hresult : (store.save p now fresh took s).result = .ok true) :
    (s.validate p.document).1 = true ∧
      (store.save p now fresh took s).session.heap.lists = s.heap.lists ∧
      ∃ e, (store.save p now fresh took s).session.heap.document? p.document =
        some ((store.timeFields p.isNew).foldl (Document.timed now) { d with errors := e }) := by
  rcases store.save_cases p now fresh took s with ⟨_, _, heq⟩ | ⟨_, _, _, heq⟩ | ⟨_, hvalid, heq⟩
  · rw [heq] at hresult
    cases hresult
  · rw [heq] at hresult
    cases hresult
  · have hmarked := s.validate_marked p.document
    obtain ⟨e, he⟩ := hmarked.document? hd
    obtain ⟨hdocument, hlists⟩ := document?_foldl_stamp he now (store.timeFields p.isNew)
    rw [heq, heap_write]
    exact ⟨hvalid, hlists.trans hmarked.lists, e, hdocument⟩

end Store

/-- After a save that succeeds the document is valid exactly if the fields that took the time of the
save can take it and no item check objects to what the document then holds.  The time is put into
the fields after the document was found valid. -/
theorem validate_after_save_iff {types : List Schema} {s : Session} (hs : Reachable types s)
    {store : Store} {p : Persisted} {d : Document} (hd : s.heap.document? p.document = some d)
    {now : Instant} {fresh : ObjectId} {took : String} {saved : Store.Saved}
    (hsaved : store.save p now fresh took s = saved) (hresult : saved.result = .ok true) :
    ∃ d', saved.session.heap.document? p.document = some d' ∧ d'.schema = d.schema ∧
      ((saved.session.validate p.document).1 = true ↔
        (∀ f ∈ d.schema.fields, f.name ∈ store.timeFields p.isNew → f.kind.takesTime now = true) ∧
        ∀ f ∈ d.schema.fields, saved.session.itemErrors d' f = .empty) := by
  subst hsaved
  obtain ⟨hvalid, hlists, e, hd'⟩ := Store.save_document hd hresult
  generalize store.save p now fresh took s = saved at hlists hd'
  refine ⟨_, hd', Document.schema_foldl_timed now _ _, ?_⟩
  have hnodup := hs.declared.fieldNames_nodup (hs.sound.schema hd)
  rw [Session.validate_eq_true_iff hd' (by rwa [Document.schema_foldl_timed]),
    Document.schema_foldl_timed]
  -- field by field, each was in order before
  have hfaults : ∀ f ∈ d.schema.fields, (((store.timeFields p.isNew).foldl (Document.timed now)
      { d with errors := e }).faults saved.session.heap f = [] ↔
        (f.name ∈ store.timeFields p.isNew → f.kind.takesTime now = true)) := by
    intro f hf
    have hfield := Schema.field?_of_mem hnodup hf
    obtain ⟨slot, hslot, _⟩ := hs.sound.slot_of_field hs.declared hd hf
    have hbefore : Document.faults saved.session.heap { d with errors := e } f = [] :=
      (Document.faults_congr hlists rfl).trans
        ((Session.validate_eq_true_iff hd hnodup).mp hvalid f hf).1
    have hpresent : (Document.slot? { d with errors := e } f.name).isSome = true :=
      Option.isSome_of_mem hslot
    exact Document.faults_foldl_timed_eq_nil_iff (d := { d with errors := e }) _ now hfield
      hpresent hbefore _
  constructor
  · intro hall
    exact ⟨fun f hf => (hfaults f hf).mp (hall f hf).1, fun f hf => (hall f hf).2⟩
  · rintro ⟨htakes, hitems⟩ f hf
    exact ⟨(hfaults f hf).mpr (htakes f hf), hitems f hf⟩

/-! A visit whose time goes into a date-time field, and one whose time goes into a counter. -/

def visitFields : List Field :=
  [⟨"count", false, none, .integer ⟨none, none⟩⟩, ⟨"seen", false, none, .dateTime⟩]

def visitType : Schema :=
  .document 0 "Visit" visitFields

def visitRun : Session :=
  [.new visitType].foldl Operation.perform .empty

def visitStore (modifiedField : String) : Store :=
  ⟨visitType, "visits", .empty, ⟨"created_at", modifiedField, true⟩⟩

def savedVisit (modifiedField : String) : Store.Saved :=
  (visitStore modifiedField).save (.ofDocument ⟨0⟩) ⟨1700000000, 0⟩ ⟨Vector.replicate 24 7⟩ "0"
    visitRun

theorem visitRun_reachable : Reachable [visitType] visitRun := by
  have hstart : Reachable [visitType] .empty :=
    .of_plain (by simp [visitFields, Kind.schema?])
  exact hstart.run (by simp [Operation.Over])

theorem validate_after_save_seen :
    (savedVisit "seen").result = .ok true ∧
      ((savedVisit "seen").session.validate ⟨0⟩).1 = true := by
  have hresult : (savedVisit "seen").result = .ok true := rfl
  have hsaved : (visitStore "seen").save (.ofDocument ⟨0⟩) ⟨1700000000, 0⟩
      ⟨Vector.replicate 24 7⟩ "0" visitRun = savedVisit "seen" := rfl
  obtain ⟨d', _, _, hiff⟩ := validate_after_save_iff visitRun_reachable rfl hsaved hresult
  refine ⟨hresult, hiff.mpr ⟨?_, ?_⟩⟩ <;> intro f hf
  · have hfields : f ∈ visitFields := hf
    simp only [visitFields, List.mem_cons, List.not_mem_nil, or_false] at hfields
    rcases hfields with rfl | rfl <;> decide
  · have hfields : f ∈ visitFields := hf
    simp only [visitFields, List.mem_cons, List.not_mem_nil, or_false] at hfields
    rcases hfields with rfl | rfl <;> rfl

/-- The counter holds a date-time after the save, and is no longer in order. -/
theorem validate_after_save_count :
    (savedVisit "count").result = .ok true ∧
      ((savedVisit "count").session.validate ⟨0⟩).1 = false :=
  ⟨rfl, rfl⟩

end DocumentModel
