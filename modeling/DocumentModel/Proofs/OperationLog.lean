/-
The log of a store accounts for its collection.

Every operation that gets as far as the collection leaves one line, and one that fails leaves none.
Deletions are logged whether or not they removed anything, and a document may be deleted or saved
long after its entry is gone; still the identifiers in the collection can be told from the log, as
long as identifiers are new when they are generated.  Nothing but the log depends on whether it is
kept.
-/
import DocumentModel.Proofs.Lookups
import DocumentModel.Proofs.Validity
import DocumentModel.Proofs.StoreRuns

namespace DocumentModel

open Heap

/-! ### Lines -/

theorem Event.name_injective : Function.Injective Event.name := by
  intro e e'
  cases e <;> cases e' <;> decide

namespace LogRecord

/-- Is it the line of an operation of a store? -/
def ofStore (line : LogRecord) : Bool :=
  [Event.inserted, .updated, .deleted, .found, .rejected].any fun e => e.name = line.event

theorem ofStore_of_event {e : Event} (he : ∀ fields, (ofEvent e fields).ofStore = true)
    {line : LogRecord} (hevent : line.event = e.name) : line.ofStore = true := by
  rw [ofStore, hevent]
  exact he []

/-- The collection that a line names. -/
def collection? (line : LogRecord) : Option String :=
  line.fields.lookup "collection"

/-- The identifiers, as text, in the lines of an event that name a collection. -/
def ids (name : String) (e : Event) (log : List LogRecord) : List String :=
  (log.filter fun line => line.event = e.name ∧ line.collection? = some name).filterMap
    fun line => line.fields.lookup "id"

theorem ids_append (name : String) (e : Event) (log more : List LogRecord) :
    ids name e (log ++ more) = ids name e log ++ ids name e more := by
  rw [ids, List.filter_append, List.filterMap_append]
  rfl

end LogRecord

/-- The line of an event of a store. -/
def Store.line (store : Store) (e : Event) (fields : List (String × String)) : LogRecord :=
  .ofEvent e ([("collection", store.name), ("schema", store.schema.name)] ++ fields)

namespace Session

/-- The lines that are written between two states, when `least` is the least severity that is. -/
def written (least : Severity) (s later : Session) : List LogRecord :=
  (later.journal.drop s.journal.length).filter fun line => line.severity.enabled least

/-- Lines are added to the journal, all of some kind. -/
def Logs (P : LogRecord → Prop) (s later : Session) : Prop :=
  ∃ lines, later.journal = s.journal ++ lines ∧ ∀ line ∈ lines, P line

namespace Logs

variable {P Q : LogRecord → Prop} {s mid later : Session}

theorem same (hsame : later.journal = s.journal) : Logs P s later :=
  ⟨[], by rw [hsame, List.append_nil], by simp⟩

theorem trans (hfirst : Logs P s mid) (hrest : Logs P mid later) : Logs P s later := by
  obtain ⟨first, hmid, hplain⟩ := hfirst
  obtain ⟨rest, hlater, hothers⟩ := hrest
  refine ⟨first ++ rest, by rw [hlater, hmid, List.append_assoc], fun line hline => ?_⟩
  exact (List.mem_append.mp hline).elim (hplain line) (hothers line)

/-- What the heap is does not matter. -/
theorem withHeap (hlogs : Logs P s later) (h : Heap) : Logs P s { later with heap := h } :=
  hlogs

theorem mono (hlogs : Logs P s later) (hPQ : ∀ line, P line → Q line) : Logs Q s later := by
  obtain ⟨lines, heq, hall⟩ := hlogs
  exact ⟨lines, heq, fun line hline => hPQ line (hall line hline)⟩

theorem log (s : Session) {e : Event} {fields : List (String × String)}
    (hline : P (.ofEvent e fields)) : Logs P s (s.log e fields) :=
  ⟨[.ofEvent e fields], rfl, by simpa using hline⟩

/-- What is written is of that kind too. -/
theorem written (hlogs : Logs P s later) (least : Severity) :
    ∀ line ∈ s.written least later, P line := by
  obtain ⟨lines, heq, hall⟩ := hlogs
  intro line hline
  rw [Session.written, heq, List.drop_left] at hline
  exact hall line (List.mem_of_mem_filter hline)

end Logs

/-- Validation logs no operation of a store, however many documents it validates. -/
theorem validateAt_logs (depth : Nat) (r : DocRef) (s : Session) :
    Logs (fun line => line.ofStore = false) s (s.validateAt depth r).1 := by
  induction depth generalizing r s with
  | zero => exact .same rfl
  | succ depth ih =>
      have hsteady : Pass.Steady (validateAt depth) fun p q =>
          Logs (fun line => line.ofStore = false) p.session q.session :=
        ⟨fun p => .same rfl, .trans, fun p _ _ => .same rfl, fun p item => ih item p.session⟩
      rw [validateAt]
      split
      · exact .same rfl
      · next d _ =>
          have hpass := d.foldl_judge_steady hsteady d.schema.fields ⟨s, .empty⟩
          generalize d.schema.fields.foldl (d.judge (validateAt depth)) ⟨s, .empty⟩ = p at hpass
          have hput := hpass.trans (.same (show (p.session.putErrors r p.errors).journal = _ by
            rw [putErrors]
            split <;> rfl))
          simp only
          split
          · exact hput.trans (.log _ rfl)
          · exact hput.trans (.log _ rfl)

theorem validate_logs (s : Session) (r : DocRef) :
    Logs (fun line => line.ofStore = false) s (s.validate r).2 :=
  validateAt_logs s.heap.documents.length r s

end Session

open Session

namespace Store

/-! ### What an operation can come to -/

/-- All that a save can come to. -/
inductive Saves (store : Store) (p : Persisted) (fresh : ObjectId) (took : String) (s : Session) :
    Saved → Prop
  | mismatched (e : StoreError) : Saves store p fresh took s ⟨.error e, p, store, s⟩
  | invalid (count : Nat) : Saves store p fresh took s ⟨.ok false, p, store,
      store.log (s.validate p.document).2 .rejected [("error_count", toString count)]⟩
  | gone (e : StoreError) (heap : Heap) : Saves store p fresh took s
      ⟨.error e, p, store, { (s.validate p.document).2 with heap := heap }⟩
  | updated {id : ObjectId} (hid : p.id? = some id) (changes : Json.Object) (heap : Heap) :
      Saves store p fresh took s
        ⟨.ok true, p, { store with collection := (store.collection.update id changes).2 },
          store.log { (s.validate p.document).2 with heap := heap } .updated
            [("duration_ms", took), ("id", id.toHex)]⟩
  | inserted (hid : p.id? = none) (data : Json.Object) (heap : Heap) :
      Saves store p fresh took s
        ⟨.ok true, { p with id? := some fresh },
          { store with collection := store.collection.insert fresh data },
          store.log { (s.validate p.document).2 with heap := heap } .inserted
            [("duration_ms", took), ("id", fresh.toHex)]⟩

theorem save_saves (store : Store) (p : Persisted) (now : Instant) (fresh : ObjectId)
    (took : String) (s : Session) :
    Saves store p fresh took s (store.save p now fresh took s) := by
  rw [save]
  split
  · next e _ => exact .mismatched e
  · split
    · next later hvalid =>
        obtain rfl : (s.validate p.document).2 = later := congrArg Prod.snd hvalid
        rw [write]
        simp only
        split
        · next id hid =>
            split
            · exact .gone _ _
            · next collection hupdate =>
                obtain ⟨-, rfl⟩ := Prod.mk.inj hupdate
                exact .updated hid _ _
        · next hid => exact .inserted hid _ _
    · next later hvalid =>
        obtain rfl : (s.validate p.document).2 = later := congrArg Prod.snd hvalid
        exact .invalid _

/-- All that a deletion can come to. -/
inductive Deletes (store : Store) (p : Persisted) (took : String) (s : Session) :
    Except StoreError Bool × Store × Session → Prop
  | mismatched (e : StoreError) : Deletes store p took s (.error e, store, s)
  | unsaved (hid : p.id? = none) : Deletes store p took s (.ok false, store, s)
  | deleted {id : ObjectId} (hid : p.id? = some id) : Deletes store p took s
      (.ok (store.collection.remove id).1,
        { store with collection := (store.collection.remove id).2 },
        store.log s .deleted [("duration_ms", took), ("id", id.toHex)])

theorem delete_deletes (store : Store) (p : Persisted) (took : String) (s : Session) :
    Deletes store p took s (store.delete p took s) := by
  rw [delete]
  split
  · next e _ => exact .mismatched e
  · split
    · next hid => exact .unsaved hid
    · next id hid => exact .deleted hid

/-- A search ends in a fault or leaves a line. -/
theorem find_cases (store : Store) (filter : Json.Object) (took : String) (s : Session) :
    (∃ e heap, store.find filter took s = (.error e, { s with heap := heap })) ∨
    ∃ ps heap fields, store.find filter took s =
      (.ok ps, store.log { s with heap := heap } .found fields) := by
  rw [find]
  split
  · exact Or.inl ⟨_, _, rfl⟩
  · exact Or.inr ⟨_, _, _, rfl⟩

/-- A look-up leaves its line before the document is made. -/
theorem findOne_cases (store : Store) (id : ObjectId) (took : String) (s : Session) :
    ∃ result heap fields, store.findOne id took s =
      (result, { store.log s .found fields with heap := heap }) := by
  rw [findOne]
  simp only
  split
  · exact ⟨_, _, _, rfl⟩
  · split <;> exact ⟨_, _, _, rfl⟩

/-- Lines of store operations come from this store, and it logs operations. -/
def Signs (store : Store) (line : LogRecord) : Prop :=
  line.ofStore = true →
    store.config.logOperations = true ∧ line.collection? = some store.name

theorem log_signs (store : Store) (s : Session) (e : Event) (fields : List (String × String)) :
    Logs store.Signs s (store.log s e fields) := by
  rw [log]
  split
  · next hon => exact .log s fun _ => ⟨hon, rfl⟩
  · exact .same rfl

theorem validate_signs (store : Store) (s : Session) (r : DocRef) :
    Logs store.Signs s (s.validate r).2 :=
  (s.validate_logs r).mono fun line hplain hline => by
    rw [hplain] at hline
    cases hline

theorem save_signs (store : Store) (p : Persisted) (now : Instant) (fresh : ObjectId)
    (took : String) (s : Session) : Logs store.Signs s (store.save p now fresh took s).session := by
  have hvalidate := store.validate_signs s p.document
  have hsaves := store.save_saves p now fresh took s
  generalize store.save p now fresh took s = saved at hsaves
  cases hsaves with
  | mismatched e => exact .same rfl
  | invalid count => exact hvalidate.trans (store.log_signs ..)
  | gone e heap => exact hvalidate.withHeap heap
  | updated hid changes heap => exact (hvalidate.withHeap heap).trans (store.log_signs ..)
  | inserted hid data heap => exact (hvalidate.withHeap heap).trans (store.log_signs ..)

theorem delete_signs (store : Store) (p : Persisted) (took : String) (s : Session) :
    Logs store.Signs s (store.delete p took s).2.2 := by
  have hdeletes := store.delete_deletes p took s
  generalize store.delete p took s = deleted at hdeletes
  cases hdeletes with
  | mismatched e => exact .same rfl
  | unsaved hid => exact .same rfl
  | deleted hid => exact store.log_signs ..

theorem find_signs (store : Store) (filter : Json.Object) (took : String) (s : Session) :
    Logs store.Signs s (store.find filter took s).2 := by
  rcases store.find_cases filter took s with ⟨e, heap, heq⟩ | ⟨ps, heap, fields, heq⟩
  · rw [heq]
    exact .same rfl
  · rw [heq]
    exact (Logs.same rfl : Logs store.Signs s { s with heap := heap }).trans (store.log_signs ..)

theorem findOne_signs (store : Store) (id : ObjectId) (took : String) (s : Session) :
    Logs store.Signs s (store.findOne id took s).2 := by
  obtain ⟨result, heap, fields, heq⟩ := store.findOne_cases id took s
  rw [heq]
  exact (store.log_signs s .found fields).withHeap heap

/-! ### Calls of a store -/

/-- What a program asks of a store, and what it does besides. -/
inductive Call where
  /-- A save at a given time.  If it inserts, it does so under `fresh`. -/
  | save (p : Persisted) (now : Instant) (fresh : ObjectId) (took : String)
  | delete (p : Persisted) (took : String)
  | find (filter : Json.Object) (took : String)
  | findOne (id : ObjectId) (took : String)
  | findById (text : String) (took : String)
  /-- Something that is not done to the store: a document is made or changed, another store is
  used. -/
  | other (op : Operation)

inductive Answer where
  | saved (result : Except StoreError Bool) (document : Persisted)
  | deleted (result : Except StoreError Bool)
  | found (result : Except StoreError (List Persisted))
  | lookedUp (result : Except StoreError (Option Persisted))
  | nothing

/-- The answer to a call, and the state after it. -/
structure Reply where
  answer : Answer
  store : Store
  session : Session

def serve (store : Store) (s : Session) : Call → Reply
  | .save p now fresh took =>
      let saved := store.save p now fresh took s
      ⟨.saved saved.result saved.document, saved.store, saved.session⟩
  | .delete p took =>
      let (result, store, s) := store.delete p took s
      ⟨.deleted result, store, s⟩
  | .find filter took =>
      let (result, s) := store.find filter took s
      ⟨.found result, store, s⟩
  | .findOne id took =>
      let (result, s) := store.findOne id took s
      ⟨.lookedUp result, store, s⟩
  | .findById text took =>
      let (result, s) := store.findById text took s
      ⟨.lookedUp result, store, s⟩
  | .other op => ⟨.nothing, store, op.perform s⟩

/-- A call that has been answered, and the lines that were written for it. -/
structure Served where
  call : Call
  answer : Answer
  written : List LogRecord

/-- Several calls, one after the other, and the state after them. -/
structure Service where
  served : List Served
  store : Store
  session : Session

/-- A call that is answered, when `least` is the least severity that is written. -/
def answer (store : Store) (s : Session) (least : Severity) (call : Call) : Served :=
  let reply := store.serve s call
  ⟨call, reply.answer, s.written least reply.session⟩

/-- Serve calls one after the other, each with the least severity that is written then. -/
def serveAll (store : Store) (s : Session) : List (Severity × Call) → Service
  | [] => ⟨[], store, s⟩
  | (least, call) :: rest =>
      let reply := store.serve s call
      let later := serveAll reply.store reply.session rest
      { later with served := store.answer s least call :: later.served }

/-- The lines that were written in the course of all calls. -/
def Service.log (service : Service) : List LogRecord :=
  service.served.flatMap Served.written

namespace Served

/-- The lines of store operations that were written for a call. -/
def lines (t : Served) : List LogRecord :=
  t.written.filter LogRecord.ofStore

/-- The identifier that a document has when it has been saved or deleted. -/
def id? (t : Served) : Option ObjectId :=
  match t.call, t.answer with
  | .save _ _ _ _, .saved _ p => p.id?
  | .delete p _, _ => p.id?
  | _, _ => none

/-- The identifier that was generated for a call. -/
def generated? (t : Served) : Option ObjectId :=
  match t.call, t.answer with
  | .save p _ _ _, .saved _ q => if p.isNew then q.id? else none
  | _, _ => none

end Served

/-- Identifiers are new when they are generated: none is that of a document in an earlier call. -/
def Service.Fresh (service : Service) : Prop :=
  service.served.Pairwise fun t u => ∀ id, u.generated? = some id → t.id? ≠ some id

/-- Something else that a program does leaves a collection to its store: other stores have
collections of other names. -/
def Call.LeavesTo (name : String) : Call → Prop
  | .other (.save store _ _ _ _) => store.name ≠ name
  | .other (.find store _ _) => store.name ≠ name
  | .other (.findOne store _ _) => store.name ≠ name
  | .other (.delete store _ _) => store.name ≠ name
  | _ => True

/-- What the log says of a call, when operations are logged: a save or a deletion that fails, and a
deletion of a document that was never saved, leave no line; every other one leaves the line of what
it did. -/
def Served.Accounted (store : Store) (t : Served) : Prop :=
  match t.call, t.answer with
  | .save p _ _ took, .saved (.ok true) q => ∃ id, q.id? = some id ∧
      t.lines = [store.line (if p.isNew then .inserted else .updated)
        [("duration_ms", took), ("id", id.toHex)]]
  | .save _ _ _ _, .saved (.ok false) _ => ∃ count : Nat,
      t.lines = [store.line .rejected [("error_count", toString count)]]
  | .save _ _ _ _, .saved (.error _) _ => t.lines = []
  | .delete p took, .deleted (.ok _) =>
      t.lines = p.id?.toList.map fun id =>
        store.line .deleted [("duration_ms", took), ("id", id.toHex)]
  | .delete _ _, .deleted (.error _) => t.lines = []
  | _, _ => True

/-- What else a program does is not logged as an operation on the collection. -/
theorem Call.other_logs {name : String} {op : Operation} (hop : (Call.other op).LeavesTo name)
    (s : Session) : Logs (fun line => line.ofStore = true → line.collection? ≠ some name) s
      (op.perform s) := by
  have hsigns : ∀ {store : Store} {later : Session}, store.name ≠ name →
      Logs store.Signs s later →
      Logs (fun line => line.ofStore = true → line.collection? ≠ some name) s later :=
    fun hname hlogs => hlogs.mono fun line hline hof heq =>
      hname (Option.some.inj ((hline hof).2.symm.trans heq))
  cases op with
  | validate r =>
      exact (s.validate_logs r).mono fun line hplain hline => by
        rw [hplain] at hline
        cases hline
  | save store p now fresh took => exact hsigns hop (store.save_signs p now fresh took s)
  | find store filter took => exact hsigns hop (store.find_signs filter took s)
  | findOne store id took => exact hsigns hop (store.findOne_signs id took s)
  | delete store p took => exact hsigns hop (store.delete_signs p took s)
  | _ => exact .same rfl

/-! ### What is written for one call -/

section

variable {store : Store} {s v : Session} {least : Severity}

/-- The lines of store operations that are written after some that are none of them: the one of
this operation, if operations are logged and it is serious enough. -/
theorem lines_log (hlogs : Logs (fun line => line.ofStore = false) s v) {e : Event}
    (he : ∀ fields, (LogRecord.ofEvent e fields).ofStore = true)
    (fields : List (String × String)) :
    (s.written least (store.log v e fields)).filter LogRecord.ofStore =
      if store.config.logOperations && e.severity.enabled least then [store.line e fields]
      else [] := by
  obtain ⟨lines, hjournal, hplain⟩ := hlogs
  have hnone : (lines.filter fun line => line.severity.enabled least).filter
      LogRecord.ofStore = [] :=
    List.filter_eq_nil_iff.mpr fun line hline => by
      simp [hplain line (List.mem_of_mem_filter hline)]
  rw [Session.written, log]
  cases hon : store.config.logOperations with
  | false => simpa [hjournal] using hnone
  | true =>
      have hline : (store.line e fields).ofStore = true := he _
      have hseverity : (store.line e fields).severity = e.severity := rfl
      rw [if_pos rfl, Session.log, hjournal, List.append_assoc, List.drop_left,
        List.filter_append, List.filter_append, hnone]
      change ([store.line e fields].filter _).filter _ = _
      generalize store.line e fields = line at hline hseverity
      cases henabled : e.severity.enabled least <;> simp [hseverity, henabled, hline]

/-- No line of a store operation is written if none is logged. -/
theorem lines_of_logs (hlogs : Logs (fun line => line.ofStore = false) s v) :
    (s.written least v).filter LogRecord.ofStore = [] :=
  List.filter_eq_nil_iff.mpr fun line hline => by simp [hlogs.written least line hline]

/-- The event of every operation is written if nothing more serious than it is asked for. -/
theorem enabled_of_rank (hleast : least.rank ≤ Severity.info.rank) {e : Event}
    (he : ∀ fields, (LogRecord.ofEvent e fields).ofStore = true) :
    e.severity.enabled least = true := by
  have hinfo : Severity.info.rank ≤ e.severity.rank := by
    cases e with
    | validated => exact absurd (he []) (by decide)
    | invalid => exact absurd (he []) (by decide)
    | _ => decide
  exact decide_eq_true (hleast.trans hinfo)

/-- The line of an operation, with nothing more serious asked for. -/
theorem lines_operation (hon : store.config.logOperations = true)
    (hleast : least.rank ≤ Severity.info.rank)
    (hlogs : Logs (fun line => line.ofStore = false) s v) {e : Event}
    (he : ∀ fields, (LogRecord.ofEvent e fields).ofStore = true)
    (fields : List (String × String)) :
    (s.written least (store.log v e fields)).filter LogRecord.ofStore = [store.line e fields] := by
  rw [lines_log hlogs he, hon, enabled_of_rank hleast he]
  rfl

theorem answer_accounted (hon : store.config.logOperations = true)
    (hleast : least.rank ≤ Severity.info.rank) (s : Session) (call : Call) :
    (store.answer s least call).Accounted store := by
  cases call with
  | save p now fresh took =>
      have hvalidate := s.validate_logs p.document
      have hsaves := store.save_saves p now fresh took s
      rw [answer, serve]
      simp only
      generalize store.save p now fresh took s = saved at hsaves
      cases hsaves with
      | mismatched e => exact lines_of_logs (.same rfl)
      | invalid count => exact ⟨count, lines_operation hon hleast hvalidate (fun _ => rfl) _⟩
      | gone e heap => exact lines_of_logs (hvalidate.withHeap heap)
      | @updated id hid changes heap =>
          have hnew : p.isNew = false := by
            rw [Persisted.isNew, hid]
            rfl
          refine ⟨id, hid, ?_⟩
          rw [hnew]
          exact lines_operation hon hleast (hvalidate.withHeap heap) (fun _ => rfl) _
      | inserted hid data heap =>
          have hnew : p.isNew = true := by
            rw [Persisted.isNew, hid]
            rfl
          refine ⟨fresh, rfl, ?_⟩
          rw [hnew]
          exact lines_operation hon hleast (hvalidate.withHeap heap) (fun _ => rfl) _
  | delete p took =>
      have hdeletes := store.delete_deletes p took s
      rw [answer, serve]
      simp only
      generalize store.delete p took s = deleted at hdeletes
      cases hdeletes with
      | mismatched e => exact lines_of_logs (.same rfl)
      | unsaved hid =>
          change (s.written least s).filter LogRecord.ofStore = p.id?.toList.map _
          rw [hid]
          exact lines_of_logs (.same rfl)
      | deleted hid =>
          change (s.written least _).filter LogRecord.ofStore = p.id?.toList.map _
          rw [hid]
          exact lines_operation hon hleast (.same rfl) (fun _ => rfl) _
  | _ => trivial

end

/-! ### What a call does to the collection -/

/-- The identifiers in the collection, oldest entry first. -/
def ids (store : Store) : List ObjectId :=
  store.collection.entries.map Prod.fst

/-- The lines of a call, as far as they name a collection, tell what it did to the identifiers that
the collection has. -/
inductive Moves (name : String) (t : Served) (before : List ObjectId) : List ObjectId → Prop
  | inserted {id : ObjectId} (hid : t.generated? = some id)
      (hinserted : LogRecord.ids name .inserted t.written = [id.toHex])
      (hdeleted : LogRecord.ids name .deleted t.written = []) : Moves name t before (before ++ [id])
  | deleted {id : ObjectId} (hid : t.id? = some id) (hnone : t.generated? = none)
      (hinserted : LogRecord.ids name .inserted t.written = [])
      (hdeleted : LogRecord.ids name .deleted t.written = [id.toHex]) :
      Moves name t before (before.filter (· ≠ id))
  | nothing (hnone : t.generated? = none)
      (hinserted : LogRecord.ids name .inserted t.written = [])
      (hdeleted : LogRecord.ids name .deleted t.written = []) : Moves name t before before

section

variable {store : Store} {s : Session} {least : Severity}

/-- Identifiers are in the lines of operations only. -/
theorem ids_lines (name : String) {e : Event}
    (he : ∀ fields, (LogRecord.ofEvent e fields).ofStore = true) (log : List LogRecord) :
    LogRecord.ids name e (log.filter LogRecord.ofStore) = LogRecord.ids name e log := by
  rw [LogRecord.ids, LogRecord.ids, List.filter_filter]
  refine congrArg _ (List.filter_congr fun line _ => ?_)
  by_cases hevent : line.event = e.name
  · rw [LogRecord.ofStore_of_event he hevent, Bool.and_true]
  · simp [hevent]

theorem ids_line (store : Store) (e e' : Event) (fields : List (String × String)) :
    LogRecord.ids store.name e [store.line e' fields] =
      if e' = e then (fields.lookup "id").toList else [] := by
  have hcollection : (store.line e' fields).collection? = some store.name := rfl
  have hid : (store.line e' fields).fields.lookup "id" = fields.lookup "id" := rfl
  have hevent : (store.line e' fields).event = e'.name := rfl
  generalize store.line e' fields = line at hcollection hid hevent
  have hsame : line.event = e.name ↔ e' = e := by
    rw [hevent, Event.name_injective.eq_iff]
  rw [LogRecord.ids, ← hid]
  by_cases heq : e' = e
  · cases hlookup : line.fields.lookup "id" <;> simp [heq, hsame, hcollection, hlookup]
  · simp [heq, hsame]

/-- What is not generated is not new. -/
theorem generated?_of_same (p : Persisted) :
    (if p.isNew then p.id? else none : Option ObjectId) = none := by
  cases hid : p.id? <;> simp [Persisted.isNew, hid]

namespace Moves

variable {t : Served} {before : List ObjectId}

theorem of_no_line (name : String) (hnone : t.generated? = none) (hlines : t.lines = []) :
    Moves name t before before := by
  apply nothing hnone
  · rw [← ids_lines name fun _ => rfl, show t.written.filter _ = [] from hlines]
    rfl
  · rw [← ids_lines name fun _ => rfl, show t.written.filter _ = [] from hlines]
    rfl

theorem of_line {e : Event} {fields : List (String × String)} (hnone : t.generated? = none)
    (hlines : t.lines = [store.line e fields]) (hinserted : e ≠ .inserted)
    (hdeleted : e ≠ .deleted) : Moves store.name t before before := by
  apply nothing hnone
  · rw [← ids_lines _ fun _ => rfl, show t.written.filter _ = _ from hlines, ids_line,
      if_neg hinserted]
  · rw [← ids_lines _ fun _ => rfl, show t.written.filter _ = _ from hlines, ids_line,
      if_neg hdeleted]

end Moves

theorem findOne_moves (hon : store.config.logOperations = true)
    (hleast : least.rank ≤ Severity.info.rank) (s : Session) (id : ObjectId) (took : String)
    {t : Served} (hnone : t.generated? = none)
    (hwritten : t.written = s.written least (store.findOne id took s).2) :
    Moves store.name t store.ids store.ids := by
  obtain ⟨result, heap, fields, heq⟩ := store.findOne_cases id took s
  have hlogs : Logs (fun line => line.ofStore = false) s s := .same rfl
  have hlines := lines_operation hon hleast hlogs (e := .found) (fun _ => rfl) fields
  have hfound : t.lines = [store.line .found fields] := by
    rw [Served.lines, hwritten, heq]
    exact hlines
  exact .of_line hnone hfound (by decide) (by decide)

theorem answer_moves (hon : store.config.logOperations = true)
    (hleast : least.rank ≤ Severity.info.rank) (s : Session) {call : Call}
    (hcall : call.LeavesTo store.name) :
    Moves store.name (store.answer s least call) store.ids (store.serve s call).store.ids := by
  have haccounted := answer_accounted hon hleast s call
  cases call with
  | save p now fresh took =>
      have hsaves := store.save_saves p now fresh took s
      rw [answer, serve] at haccounted ⊢
      simp only at haccounted ⊢
      generalize store.save p now fresh took s = saved at hsaves haccounted
      cases hsaves with
      | mismatched e => exact .of_no_line _ (generated?_of_same p) haccounted
      | invalid count =>
          obtain ⟨_, hlines⟩ := haccounted
          exact .of_line (generated?_of_same p) hlines (by decide) (by decide)
      | gone e heap => exact .of_no_line _ (generated?_of_same p) haccounted
      | @updated id hid changes heap =>
          obtain ⟨_, _, hlines⟩ := haccounted
          have hids : Store.ids { store with
              collection := (store.collection.update id changes).2 } = store.ids :=
            Collection.map_fst_updateEntries ..
          rw [hids]
          have hnew : p.isNew = false := by
            rw [Persisted.isNew, hid]
            rfl
          rw [hnew] at hlines
          exact .of_line (generated?_of_same p) hlines (by decide) (by decide)
      | inserted hid data heap =>
          obtain ⟨id, hfresh, hlines⟩ := haccounted
          obtain rfl : fresh = id := Option.some.inj hfresh
          have hids : Store.ids { store with collection := store.collection.insert fresh data } =
              store.ids ++ [fresh] := List.map_append
          have hnew : p.isNew = true := by
            rw [Persisted.isNew, hid]
            rfl
          rw [hnew] at hlines
          rw [hids]
          have hwritten : List.filter LogRecord.ofStore _ = [store.line .inserted _] := hlines
          refine Moves.inserted ?_ ?_ ?_
          · change (if p.isNew then some fresh else none) = some fresh
            rw [hnew, if_pos rfl]
          · rw [← ids_lines _ fun _ => rfl, hwritten]
            exact ids_line store .inserted .inserted _
          · rw [← ids_lines _ fun _ => rfl, hwritten]
            exact ids_line store .deleted .inserted _
  | delete p took =>
      have hdeletes := store.delete_deletes p took s
      rw [answer, serve] at haccounted ⊢
      simp only at haccounted ⊢
      generalize store.delete p took s = deleted at hdeletes haccounted
      cases hdeletes with
      | mismatched e => exact .of_no_line _ rfl haccounted
      | unsaved hid =>
          have hlines : Served.lines _ = p.id?.toList.map _ := haccounted
          rw [hid] at hlines
          exact .of_no_line _ rfl hlines
      | @deleted id hid =>
          have hlines : (s.written least _).filter LogRecord.ofStore = p.id?.toList.map _ :=
            haccounted
          rw [hid] at hlines
          have hids : Store.ids { store with collection := (store.collection.remove id).2 } =
              store.ids.filter (· ≠ id) := Collection.map_fst_remove ..
          rw [hids]
          refine Moves.deleted (show Served.id? _ = some id from hid) rfl ?_ ?_
          · rw [← ids_lines _ fun _ => rfl, hlines]
            exact ids_line store .inserted .deleted _
          · rw [← ids_lines _ fun _ => rfl, hlines]
            exact ids_line store .deleted .deleted _
  | find filter took =>
      rw [answer, serve]
      rcases store.find_cases filter took s with ⟨e, heap, heq⟩ | ⟨ps, heap, fields, heq⟩
      · rw [heq]
        exact .of_no_line _ rfl (lines_of_logs (.same rfl))
      · rw [heq]
        have hlogs : Logs (fun line => line.ofStore = false) s { s with heap := heap } := .same rfl
        have hlines := lines_operation hon hleast hlogs (e := .found) (fun _ => rfl) fields
        exact .of_line rfl hlines (by decide) (by decide)
  | findOne id took => exact findOne_moves hon hleast s id took rfl rfl
  | findById text took =>
      rw [answer, serve, findById]
      cases ObjectId.parse? text with
      | none => exact .of_no_line _ rfl (lines_of_logs (.same rfl))
      | some id => exact findOne_moves hon hleast s id took rfl rfl
  | other op =>
      have hlogs := (Call.other_logs hcall s).written least
      have hnone : ∀ {e : Event}, (∀ fields, (LogRecord.ofEvent e fields).ofStore = true) →
          LogRecord.ids store.name e (s.written least (op.perform s)) = [] := by
        intro e he
        rw [LogRecord.ids, List.filter_eq_nil_iff.mpr]
        · rfl
        · intro line hline htrue
          obtain ⟨hevent, hname⟩ := of_decide_eq_true htrue
          exact hlogs line hline (LogRecord.ofStore_of_event he hevent) hname
      exact .nothing rfl (hnone fun _ => rfl) (hnone fun _ => rfl)

/-- A call changes nothing of the store but its collection. -/
theorem serve_store (store : Store) (s : Session) (call : Call) :
    ∃ collection, (store.serve s call).store = { store with collection := collection } := by
  cases call with
  | save p now fresh took => exact store.save_store p now fresh took s
  | delete p took => exact store.delete_store p took s
  | _ => exact ⟨store.collection, rfl⟩

end

/-! ### What a run of calls does to the collection -/

/-- Identifiers that were inserted and not deleted, by some lines. -/
def remaining (name : String) (log : List LogRecord) : List String :=
  (LogRecord.ids name .inserted log).filter fun id => id ∉ LogRecord.ids name .deleted log

/-- What a call does to the identifiers that remain is what it does to the collection. -/
theorem Moves.remaining {name : String} {t : Served} {log : List LogRecord}
    {before after : List ObjectId} (hmoves : Moves name t before after)
    (hfresh : ∀ id, t.generated? = some id → id.toHex ∉ LogRecord.ids name .deleted log)
    (hbefore : before.map ObjectId.toHex = remaining name log) :
    after.map ObjectId.toHex = Store.remaining name (log ++ t.written) := by
  rw [Store.remaining, LogRecord.ids_append, LogRecord.ids_append]
  cases hmoves with
  | @inserted id hid hinserted hdeleted =>
      rw [hinserted, hdeleted, List.append_nil, List.filter_append, List.map_append, hbefore]
      congr 1
      simp [hfresh id hid]
  | @deleted id hid hnone hinserted hdeleted =>
      have hsame : ∀ i : ObjectId, (i ≠ id) = (i.toHex ≠ id.toHex) := fun i =>
        propext (not_congr ⟨congrArg _, ObjectId.toHex_injective⟩)
      rw [hinserted, hdeleted, List.append_nil]
      calc (before.filter fun i => i ≠ id).map ObjectId.toHex
          = (before.map ObjectId.toHex).filter fun text => text ≠ id.toHex := by
            rw [List.filter_map]
            simp only [hsame]
            rfl
        _ = _ := by
            rw [hbefore, Store.remaining, List.filter_filter]
            refine List.filter_congr fun text _ => ?_
            simp [Bool.and_comm]
  | nothing hnone hinserted hdeleted =>
      rw [hinserted, hdeleted, List.append_nil, List.append_nil]
      exact hbefore

/-- The identifiers that the lines of a call delete are those of its document. -/
theorem Moves.id?_of_deleted {name : String} {t : Served} {before after : List ObjectId}
    (hmoves : Moves name t before after) {text : String}
    (htext : text ∈ LogRecord.ids name .deleted t.written) :
    ∃ id, t.id? = some id ∧ text = id.toHex := by
  cases hmoves with
  | inserted hid hinserted hdeleted =>
      rw [hdeleted] at htext
      cases htext
  | @deleted id hid hnone hinserted hdeleted =>
      rw [hdeleted] at htext
      exact ⟨id, hid, List.mem_singleton.mp htext⟩
  | nothing hnone hinserted hdeleted =>
      rw [hdeleted] at htext
      cases htext

/-- Whatever was logged before, the identifiers that remain by all lines are those in the
collection. -/
theorem serveAll_remaining {calls : List (Severity × Call)}
    (hleast : ∀ c ∈ calls, c.1.rank ≤ Severity.info.rank) {store : Store}
    (hon : store.config.logOperations = true) (hcalls : ∀ c ∈ calls, c.2.LeavesTo store.name)
    {s : Session} (hfresh : (store.serveAll s calls).Fresh) {log : List LogRecord}
    (hnew : ∀ t ∈ (store.serveAll s calls).served, ∀ id, t.generated? = some id →
      id.toHex ∉ LogRecord.ids store.name .deleted log)
    (hids : store.ids.map ObjectId.toHex = remaining store.name log) :
    (store.serveAll s calls).store.ids.map ObjectId.toHex =
      remaining store.name (log ++ (store.serveAll s calls).log) := by
  induction calls generalizing store s log with
  | nil =>
      rw [serveAll, Service.log, List.flatMap_nil, List.append_nil]
      exact hids
  | cons c rest ih =>
      obtain ⟨least, call⟩ := c
      obtain ⟨hleast₁, hleast⟩ := List.forall_mem_cons.mp hleast
      obtain ⟨hcall, hcalls⟩ := List.forall_mem_cons.mp hcalls
      rw [serveAll] at hfresh hnew ⊢
      obtain ⟨hearlier, hfresh⟩ := List.pairwise_cons.mp hfresh
      obtain ⟨hnew₁, hnew⟩ := List.forall_mem_cons.mp hnew
      have hmoves := answer_moves hon hleast₁ s hcall
      obtain ⟨collection, hstore⟩ := store.serve_store s call
      have hname : (store.serve s call).store.name = store.name := by rw [hstore]
      have hlogs : (store.serve s call).store.config = store.config := by rw [hstore]
      rw [Service.log, List.flatMap_cons, ← List.append_assoc]
      rw [← hname] at hmoves hcalls hnew hnew₁ hids ⊢
      apply ih hleast (hlogs ▸ hon) hcalls hfresh
      · intro u hu id hid hmem
        rw [LogRecord.ids_append, List.mem_append] at hmem
        rcases hmem with hold | hmine
        · exact hnew u hu id hid hold
        · obtain ⟨other, hother, heq⟩ := hmoves.id?_of_deleted hmine
          rw [← ObjectId.toHex_injective heq] at hother
          exact hearlier u hu id hid hother
      · exact hmoves.remaining hnew₁ hids

/-! ### Without the log -/

/-- The store, logging no operations. -/
def quiet (store : Store) : Store :=
  { store with config := { store.config with logOperations := false } }

end Store

/-- The state without what has been logged. -/
def Session.silent (s : Session) : Session :=
  { s with journal := [] }

theorem Session.silent_eq {s later : Session} (hheap : s.heap = later.heap) :
    s.silent = later.silent := by
  rw [silent, silent, hheap]

/-- What validation finds and leaves does not depend on what has been logged. -/
theorem Session.validate_silent (s : Session) (r : DocRef) :
    (s.silent.validate r).1 = (s.validate r).1 ∧
      (s.silent.validate r).2.heap = (s.validate r).2.heap := by
  obtain ⟨hresult, hheap⟩ := validate_congr (s := s.silent) (.refl s.heap) r
  exact ⟨hresult, hheap.same trivial⟩

namespace Store

/-- What a save comes to, apart from the log. -/
def Saved.silent (saved : Saved) : Saved :=
  { saved with store := saved.store.quiet, session := saved.session.silent }

/-- What a call comes to, apart from the log. -/
def Reply.silent (reply : Reply) : Reply :=
  ⟨reply.answer, reply.store.quiet, reply.session.silent⟩

section

variable (store : Store) {s s' : Session}

theorem write_silent (p : Persisted) (now : Instant) (fresh : ObjectId) (took : String)
    (hheap : s'.heap = s.heap) : (store.quiet.write p now fresh took s').silent =
      (store.write p now fresh took s).silent := by
  rw [write, write, hheap]
  simp only
  cases p.id? with
  | none =>
      simp only [Saved.silent, Session.silent, heap_log]
      rfl
  | some id =>
      have hupdate : ∀ changes : Json.Object,
          store.quiet.collection.update id changes = store.collection.update id changes :=
        fun _ => rfl
      have hmodified : store.quiet.config.modifiedField = store.config.modifiedField := rfl
      simp only [hupdate, hmodified]
      generalize store.collection.update id _ = result
      obtain ⟨found, collection⟩ := result
      cases found <;> simp only [Saved.silent, Session.silent, heap_log] <;> rfl

theorem save_silent (p : Persisted) (now : Instant) (fresh : ObjectId) (took : String)
    (s : Session) : (store.quiet.save p now fresh took s.silent).silent =
      (store.save p now fresh took s).silent := by
  obtain ⟨hvalid, hheap⟩ := s.validate_silent p.document
  have hcheck : store.quiet.checkSchema s.silent.heap p.document =
      store.checkSchema s.heap p.document := rfl
  rw [save, save, hcheck]
  cases store.checkSchema s.heap p.document with
  | error e => rfl
  | ok _ =>
      generalize s.silent.validate p.document = checked' at hvalid hheap
      generalize s.validate p.document = checked at hvalid hheap
      obtain ⟨valid', later'⟩ := checked'
      obtain ⟨valid, later⟩ := checked
      obtain rfl : valid' = valid := hvalid
      cases valid' with
      | true => exact store.write_silent p now fresh took hheap
      | false =>
          have hheap : later'.heap = later.heap := hheap
          simp only [Saved.silent, Session.silent, heap_log, hheap]
          rfl

theorem hydrateAll_quiet (h : Heap) (entries : List (ObjectId × Json.Object)) :
    store.quiet.hydrateAll h entries = store.hydrateAll h entries := by
  have hone : ∀ (id : ObjectId) (data : Json.Object) (h : Heap),
      store.quiet.hydrate id data h = store.hydrate id data h := fun _ _ _ => rfl
  induction entries generalizing h with
  | nil => rfl
  | cons entry rest ih => simp only [hydrateAll, hone, ih]

theorem find_silent (filter : Json.Object) (took : String) (s : Session) :
    (store.quiet.find filter took s.silent).1 = (store.find filter took s).1 ∧
      (store.quiet.find filter took s.silent).2.silent = (store.find filter took s).2.silent := by
  have hfound : store.quiet.hydrateAll s.silent.heap (store.quiet.collection.find filter) =
      store.hydrateAll s.heap (store.collection.find filter) := store.hydrateAll_quiet ..
  rw [find, find, hfound]
  split <;> simp only [Session.silent, heap_log, and_self]

theorem findOne_silent (id : ObjectId) (took : String) (s : Session) :
    (store.quiet.findOne id took s.silent).1 = (store.findOne id took s).1 ∧
      (store.quiet.findOne id took s.silent).2.silent = (store.findOne id took s).2.silent := by
  have hfound : store.quiet.collection.find? id = store.collection.find? id := rfl
  have hone : ∀ (data : Json.Object) (h : Heap),
      store.quiet.hydrate id data h = store.hydrate id data h := fun _ _ => rfl
  have hheap : s.silent.heap = s.heap := rfl
  simp only [findOne, hfound, heap_log, hone, hheap]
  cases store.collection.find? id with
  | none => simp only [Session.silent, heap_log, and_self]
  | some data =>
      simp only
      split <;> simp only [Session.silent, and_self]

theorem delete_silent (p : Persisted) (took : String) (s : Session) :
    (store.quiet.delete p took s.silent).1 = (store.delete p took s).1 ∧
      (store.quiet.delete p took s.silent).2.1.quiet = (store.delete p took s).2.1.quiet ∧
      (store.quiet.delete p took s.silent).2.2.silent = (store.delete p took s).2.2.silent := by
  have hcheck : store.quiet.checkSchema s.silent.heap p.document =
      store.checkSchema s.heap p.document := rfl
  rw [delete, delete, hcheck]
  cases store.checkSchema s.heap p.document with
  | error e => exact ⟨rfl, rfl, rfl⟩
  | ok _ =>
      cases p.id? with
      | none => exact ⟨rfl, rfl, rfl⟩
      | some id =>
          refine ⟨rfl, rfl, Session.silent_eq ?_⟩
          simp only [heap_log]
          rfl

end

/-- Whatever a program does, only the log depends on what has been logged. -/
theorem perform_silent (op : Operation) (s : Session) :
    (op.perform s.silent).silent = (op.perform s).silent := by
  cases op with
  | validate r => exact Session.silent_eq (s.validate_silent r).2
  | save store p now fresh took =>
      have hquiet := store.save_silent p now fresh took
      exact congrArg Saved.session ((hquiet s.silent).symm.trans (hquiet s))
  | find store filter took =>
      have hquiet := store.find_silent filter took
      exact (hquiet s.silent).2.symm.trans (hquiet s).2
  | findOne store id took =>
      have hquiet := store.findOne_silent id took
      exact (hquiet s.silent).2.symm.trans (hquiet s).2
  | delete store p took =>
      have hquiet := store.delete_silent p took
      exact (hquiet s.silent).2.2.symm.trans (hquiet s).2.2
  | _ => rfl

/-- Without the log, a call is answered the same and leaves the same. -/
theorem serve_silent (store : Store) (s : Session) (call : Call) :
    (store.quiet.serve s.silent call).silent = (store.serve s call).silent := by
  cases call with
  | save p now fresh took =>
      have hsaved := store.save_silent p now fresh took s
      have hanswer := congrArg₂ Answer.saved (congrArg Saved.result hsaved)
        (congrArg Saved.document hsaved)
      exact (Reply.mk.injEq ..).mpr
        ⟨hanswer, congrArg Saved.store hsaved, congrArg Saved.session hsaved⟩
  | delete p took =>
      obtain ⟨hresult, hstore, hsession⟩ := store.delete_silent p took s
      exact (Reply.mk.injEq ..).mpr ⟨congrArg Answer.deleted hresult, hstore, hsession⟩
  | find filter took =>
      obtain ⟨hresult, hsession⟩ := store.find_silent filter took s
      exact (Reply.mk.injEq ..).mpr ⟨congrArg Answer.found hresult, rfl, hsession⟩
  | findOne id took =>
      obtain ⟨hresult, hsession⟩ := store.findOne_silent id took s
      exact (Reply.mk.injEq ..).mpr ⟨congrArg Answer.lookedUp hresult, rfl, hsession⟩
  | findById text took =>
      rw [serve, serve, findById, findById]
      cases ObjectId.parse? text with
      | none => rfl
      | some id =>
          obtain ⟨hresult, hsession⟩ := store.findOne_silent id took s
          exact (Reply.mk.injEq ..).mpr ⟨congrArg Answer.lookedUp hresult, rfl, hsession⟩
  | other op => exact (Reply.mk.injEq ..).mpr ⟨rfl, rfl, perform_silent op s⟩

/-- What a service comes to, apart from the log. -/
def Service.outcome (service : Service) : List Answer × Store × Session :=
  (service.served.map Served.answer, service.store.quiet, service.session.silent)

/-- Without the log, calls are answered the same and leave the same. -/
theorem serveAll_silent (store : Store) (s : Session) (calls : List (Severity × Call)) :
    (store.quiet.serveAll s.silent calls).outcome = (store.serveAll s calls).outcome := by
  induction calls generalizing store s with
  | nil => rfl
  | cons c rest ih =>
      obtain ⟨least, call⟩ := c
      have hreply := store.serve_silent s call
      have hstore := congrArg Reply.store hreply
      have hsession := congrArg Reply.session hreply
      -- both services go on as the one without the log does
      have hquiet := ih (store.quiet.serve s.silent call).store
        (store.quiet.serve s.silent call).session
      have hloud := ih (store.serve s call).store (store.serve s call).session
      change (store.quiet.serve s.silent call).store.quiet = _ at hstore
      change (store.quiet.serve s.silent call).session.silent = _ at hsession
      rw [hstore, hsession] at hquiet
      have hrest := hquiet.symm.trans hloud
      have hanswers := congrArg₂ List.cons (congrArg Reply.answer hreply) (congrArg Prod.fst hrest)
      exact congrArg₂ Prod.mk hanswers (congrArg Prod.snd hrest)

/-- The lines of a call of the store's own come from the store. -/
theorem serve_signs (store : Store) (s : Session) {call : Call} (hown : ∀ op, call ≠ .other op) :
    Logs store.Signs s (store.serve s call).session := by
  cases call with
  | save p now fresh took => exact store.save_signs p now fresh took s
  | delete p took => exact store.delete_signs p took s
  | find filter took => exact store.find_signs filter took s
  | findOne id took => exact store.findOne_signs id took s
  | findById text took =>
      rw [serve, findById]
      cases ObjectId.parse? text with
      | none => exact .same rfl
      | some id => exact store.findOne_signs id took s
  | other op => exact absurd rfl (hown op)

/-- A store that logs no operations leaves no line of one. -/
theorem answer_quiet {store : Store} (hoff : store.config.logOperations = false) (s : Session)
    (least : Severity) {call : Call} (hcall : call.LeavesTo store.name) :
    (∀ line ∈ (store.answer s least call).written,
      line.ofStore = true → line.collection? ≠ some store.name) ∧
    ((∀ op, call ≠ .other op) → (store.answer s least call).lines = []) := by
  have hown : (∀ op, call ≠ .other op) →
      Logs (fun line => line.ofStore = false) s (store.serve s call).session := fun hown =>
    (store.serve_signs s hown).mono fun line hsigns => by
      by_contra hline
      exact Bool.false_ne_true (hoff.symm.trans (hsigns (Bool.eq_true_of_not_eq_false hline)).1)
  refine ⟨?_, fun hcall => lines_of_logs (hown hcall)⟩
  by_cases hother : ∃ op, call = .other op
  · obtain ⟨op, rfl⟩ := hother
    exact (Call.other_logs hcall s).written least
  · intro line hline hof
    have hplain := (hown fun op heq => hother ⟨op, heq⟩).written least line hline
    rw [hof] at hplain
    cases hplain

/-- What is true of the answer to each call, whatever the collection and the state are then, is true
of the answers in the course of all calls. -/
theorem forall_served {P : Served → Prop} {store : Store} {calls : List (Severity × Call)}
    (hanswer : ∀ c ∈ calls, ∀ collection s,
      P (answer { store with collection := collection } s c.1 c.2)) (s : Session) :
    ∀ t ∈ (store.serveAll s calls).served, P t := by
  induction calls generalizing store s with
  | nil => simp [serveAll]
  | cons c rest ih =>
      obtain ⟨hfirst, hrest⟩ := List.forall_mem_cons.mp hanswer
      obtain ⟨collection, hstore⟩ := store.serve_store s c.2
      rw [serveAll, hstore]
      refine List.forall_mem_cons.mpr ⟨hfirst store.collection s, ?_⟩
      let later : Store := { store with collection := collection }
      exact @ih later hrest _

/-- The log of a store accounts for its collection.  While operations are logged and events of their
severity are written, every save and every deletion leaves the line of what it did, and none if it
fails; and the identifiers in the collection are those of the logged insertions that are in no
logged deletion.  If operations are not logged, the same calls are answered the same and leave the
same documents and the same collection, and no line of an operation. -/
theorem log_accounts_for_collection {schema : Schema} {name : String} {config : StoreConfig}
    {store : Store} (hcreate : create? schema name config = .ok store)
    (hon : config.logOperations = true) (s : Session) {calls : List (Severity × Call)}
    (hleast : ∀ c ∈ calls, c.1.rank ≤ Severity.info.rank)
    (hcalls : ∀ c ∈ calls, c.2.LeavesTo name) (hfresh : (store.serveAll s calls).Fresh) :
    (∀ t ∈ (store.serveAll s calls).served, t.Accounted store) ∧
    (store.serveAll s calls).store.ids.map ObjectId.toHex =
      (LogRecord.ids name .inserted (store.serveAll s calls).log).filter
        (fun id => id ∉ LogRecord.ids name .deleted (store.serveAll s calls).log) ∧
    ∃ quiet, create? schema name { config with logOperations := false } = .ok quiet ∧
      (quiet.serveAll s calls).served.map Served.answer =
        (store.serveAll s calls).served.map Served.answer ∧
      (quiet.serveAll s calls).store.collection = (store.serveAll s calls).store.collection ∧
      (quiet.serveAll s calls).session.heap = (store.serveAll s calls).session.heap ∧
      ∀ t ∈ (quiet.serveAll s calls).served,
        (∀ line ∈ t.written, line.ofStore = true → line.collection? ≠ some name) ∧
        ((∀ op, t.call ≠ .other op) → t.lines = []) := by
  have hquiet : create? schema name { config with logOperations := false } = .ok store.quiet := by
    rw [create?] at hcreate ⊢
    split at hcreate
    · cases hcreate
    · next hrole =>
        rw [if_neg hrole, ← Except.ok.inj hcreate]
        rfl
  have hstore := Desk.create?_eq_ok hcreate
  have hname : store.name = name := by rw [hstore]
  have hon : store.config.logOperations = true := by rwa [hstore]
  have hempty : store.ids.map ObjectId.toHex = remaining store.name [] := by
    rw [hstore]
    rfl
  have houtcome : (store.quiet.serveAll s calls).outcome = (store.serveAll s calls).outcome :=
    (store.quiet.serveAll_silent s calls).symm.trans (store.serveAll_silent s calls)
  refine ⟨forall_served (fun c hc collection s => ?_) s, ?_, store.quiet, hquiet,
    congrArg Prod.fst houtcome, congrArg (fun o => o.2.1.collection) houtcome,
    congrArg (fun o => o.2.2.heap) houtcome, forall_served (fun c hc collection s => ?_) s⟩
  · let now : Store := { store with collection := collection }
    exact now.answer_accounted hon (hleast c hc) s c.2
  · rw [← hname] at hcalls ⊢
    exact serveAll_remaining hleast hon hcalls hfresh (by simp [LogRecord.ids]) hempty
  · let now : Store := { store.quiet with collection := collection }
    exact hname ▸ now.answer_quiet rfl s c.1 (hname ▸ hcalls c hc)

/-! A shelf of letters: one is refused, sent, changed and recalled, and one is sent. -/

def letterType : Schema :=
  .document 0 "Letter" [⟨"text", true, none, .string ⟨.free, none, none⟩⟩]

def letters : Store :=
  ⟨letterType, "letters", .empty, .usual⟩

/-- Two letters, the first still to be written. -/
def letterRun : Session :=
  [.new letterType, .new letterType, .set ⟨1⟩ "text" (.text "Dear Ann")].foldl
    Operation.perform .empty

def letterCalls : List (Severity × Call) :=
  [(.trace, .save ⟨⟨0⟩, none⟩ ⟨0, 0⟩ (.ofNat 1) "0"),
    (.info, .other (.set ⟨0⟩ "text" (.text "Dear Bob"))),
    (.info, .save ⟨⟨0⟩, none⟩ ⟨0, 0⟩ (.ofNat 1) "0"),
    (.info, .save ⟨⟨0⟩, some (.ofNat 1)⟩ ⟨1, 0⟩ (.ofNat 9) "0"),
    (.trace, .save ⟨⟨1⟩, none⟩ ⟨2, 0⟩ (.ofNat 2) "0"),
    (.info, .delete ⟨⟨0⟩, some (.ofNat 1)⟩ "0"),
    (.info, .delete ⟨⟨0⟩, some (.ofNat 1)⟩ "0"),
    (.info, .save ⟨⟨0⟩, some (.ofNat 1)⟩ ⟨3, 0⟩ (.ofNat 9) "0"),
    (.info, .find [] "0")]

/-- Two insertions, and two deletions of the first letter of which one found nothing: the second
letter remains, with or without the log. -/
theorem log_accounts_for_collection_letters :
    create? letterType "letters" .usual = .ok letters ∧
    (letters.serveAll letterRun letterCalls).store.ids.map ObjectId.toHex =
      ["000000000000000000000002"] ∧
    ((letters.serveAll letterRun letterCalls).served.map fun t => t.lines.map (·.event)) =
      [["DOCUMENT_REJECTED"], [], ["DOCUMENT_INSERT"], ["DOCUMENT_UPDATE"], ["DOCUMENT_INSERT"],
        ["DOCUMENT_DELETE"], ["DOCUMENT_DELETE"], [], ["DOCUMENT_FIND"]] ∧
    ∃ quiet, create? letterType "letters" .quiet = .ok quiet ∧
      (quiet.serveAll letterRun letterCalls).store.collection =
        (letters.serveAll letterRun letterCalls).store.collection := by
  have hcreate : create? letterType "letters" .usual = .ok letters := rfl
  have hleast : ∀ c ∈ letterCalls, c.1.rank ≤ Severity.info.rank := by decide
  have hids : (letters.serveAll letterRun letterCalls).served.map
      (fun t => (t.id?, t.generated?)) =
      [(none, none), (none, none), (some (.ofNat 1), some (.ofNat 1)), (some (.ofNat 1), none),
        (some (.ofNat 2), some (.ofNat 2)), (some (.ofNat 1), none), (some (.ofNat 1), none),
        (some (.ofNat 1), none), (none, none)] := by decide +kernel
  have hlines :
      ((letters.serveAll letterRun letterCalls).served.map fun t => t.lines.map (·.event)) =
      [["DOCUMENT_REJECTED"], [], ["DOCUMENT_INSERT"], ["DOCUMENT_UPDATE"], ["DOCUMENT_INSERT"],
        ["DOCUMENT_DELETE"], ["DOCUMENT_DELETE"], [], ["DOCUMENT_FIND"]] := by decide +kernel
  have hinserted : LogRecord.ids "letters" .inserted
      (letters.serveAll letterRun letterCalls).log =
      ["000000000000000000000001", "000000000000000000000002"] := by decide +kernel
  have hdeleted : LogRecord.ids "letters" .deleted (letters.serveAll letterRun letterCalls).log =
      ["000000000000000000000001", "000000000000000000000001"] := by decide +kernel
  have hne : ObjectId.ofNat 1 ≠ ObjectId.ofNat 2 := by decide +kernel
  have hfresh : (letters.serveAll letterRun letterCalls).Fresh := by
    have hpairs : ((letters.serveAll letterRun letterCalls).served.map
        fun t => (t.id?, t.generated?)).Pairwise
        fun t u => ∀ id, u.2 = some id → t.1 ≠ some id := by
      rw [hids]
      simp [hne]
    exact List.pairwise_map.mp hpairs
  obtain ⟨_, hremain, quiet, hquiet, _, hsame, _⟩ :=
    log_accounts_for_collection hcreate rfl letterRun hleast
      (by simp [letterCalls, Call.LeavesTo]) hfresh
  rw [hinserted, hdeleted] at hremain
  exact ⟨hcreate, hremain, hlines, quiet, hquiet, hsame⟩

end Store

end DocumentModel
