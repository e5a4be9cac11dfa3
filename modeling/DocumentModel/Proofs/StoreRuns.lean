/-
Runs of a store.

A program works at a desk: it has a store, and the documents that it has wrapped for it, each of
which it names by a handle.  `Desk.perform` is one action with what came of it, `Desk.Step` says all
that an action can do to identifiers, and `Desk.Run` are the desks that any actions lead to, in any
order.  Identifiers are new when they are generated.
-/
import DocumentModel.Proofs.Cloning
import DocumentModel.Proofs.ReadBack

namespace DocumentModel

/-- A store, the documents that were wrapped for it, and all else that there is. -/
structure Desk where
  store : Store
  session : Session
  /-- The wrapped documents.  A handle is a position in this list. -/
  handles : List Persisted

namespace Desk

/-- Something that a program does at a desk. -/
inductive Action where
  | create
  | persist (r : DocRef)
  | clone (handle : Nat)
  /-- A save at a given time.  If it inserts, it does so under `fresh`. -/
  | save (handle : Nat) (now : Instant) (fresh : ObjectId) (took : String)
  | delete (handle : Nat) (took : String)
  | find (filter : Json.Object) (took : String)
  | findOne (id : ObjectId) (took : String)
  | findById (text : String) (took : String)
  /-- Something that is not done to the store: a field of a document is set, a list is changed. -/
  | other (op : Operation)

/-- What came of an action. -/
inductive Event where
  | wrapped
  | cloned (source copy : Nat)
  /-- A save of a new document returned true. -/
  | inserted (handle : Nat) (id : ObjectId) (now : Instant)
  /-- A save of a document with an identifier returned true. -/
  | updated (handle : Nat) (id : ObjectId) (now : Instant)
  /-- A deletion returned true. -/
  | removed (id : ObjectId)
  /-- The entries with some identifiers were found, and made into documents for which there are
  handles from `first` on. -/
  | found (first : Nat) (ids : List ObjectId)
  | nothing
  deriving DecidableEq

/-- The identifiers in the collection, oldest entry first. -/
def ids (d : Desk) : List ObjectId :=
  d.store.collection.entries.map Prod.fst

/-- The desk after some more documents were wrapped. -/
def hold (d : Desk) (s : Session) (ps : List Persisted) : Desk :=
  { d with session := s, handles := d.handles ++ ps }

/-- What came of the save of a document. -/
def saveEvent (handle : Nat) (p : Persisted) (now : Instant) (fresh : ObjectId) :
    Except StoreError Bool → Event
  | .ok true =>
      match p.id? with
      | none => .inserted handle fresh now
      | some id => .updated handle id now
  | _ => .nothing

/-- What came of the deletion of a document. -/
def deleteEvent (p : Persisted) : Except StoreError Bool → Event
  | .ok true =>
      match p.id? with
      | none => .nothing
      | some id => .removed id
  | _ => .nothing

/-- Look one identifier up. -/
def lookUp (d : Desk) (id : ObjectId) (took : String) : Event × Desk :=
  match d.store.findOne id took d.session with
  | (.ok (some p), s) => (.found d.handles.length [id], d.hold s [p])
  | (_, s) => (.nothing, d.hold s [])

/-- What comes of an action, and the desk after it. -/
def perform (d : Desk) : Action → Event × Desk
  | .create =>
      match d.store.newDocument d.session.heap with
      | (.ok p, h) => (.wrapped, d.hold { d.session with heap := h } [p])
      | (.error _, h) => (.nothing, d.hold { d.session with heap := h } [])
  | .persist r => (.wrapped, d.hold d.session [.ofDocument r])
  | .clone i =>
      match d.handles[i]? with
      | none => (.nothing, d)
      | some p =>
          let (r, h) := d.session.heap.clone p.document
          (.cloned i d.handles.length,
            d.hold { d.session with heap := h } [{ p with document := r }])
  | .save i now fresh took =>
      match d.handles[i]? with
      | none => (.nothing, d)
      | some p =>
          let saved := d.store.save p now fresh took d.session
          (saveEvent i p now fresh saved.result,
            ⟨saved.store, saved.session, d.handles.set i saved.document⟩)
  | .delete i took =>
      match d.handles[i]? with
      | none => (.nothing, d)
      | some p =>
          let (result, store, s) := d.store.delete p took d.session
          (deleteEvent p result, { d with store := store, session := s })
  | .find filter took =>
      match d.store.find filter took d.session with
      | (.ok ps, s) =>
          (.found d.handles.length ((d.store.collection.find filter).map Prod.fst), d.hold s ps)
      | (.error _, s) => (.nothing, d.hold s [])
  | .findOne id took => d.lookUp id took
  | .findById text took =>
      match ObjectId.parse? text with
      | none => (.nothing, d)
      | some id => d.lookUp id took
  | .other op => (.nothing, d.hold (op.perform d.session) [])

/-! ### What an action can do -/

/-- All that an action can do to the handles and to the identifiers in the collection. -/
inductive Step (d later : Desk) : Event → Prop
  | nothing (hhandles : later.handles = d.handles) (hids : later.ids = d.ids) :
      Step d later .nothing
  | wrapped {p : Persisted} (hhandles : later.handles = d.handles ++ [p])
      (hids : later.ids = d.ids) (hid : p.id? = none) : Step d later .wrapped
  | cloned {i : Nat} {p copy : Persisted} (hp : d.handles[i]? = some p)
      (hhandles : later.handles = d.handles ++ [copy]) (hids : later.ids = d.ids)
      (hid : copy.id? = p.id?)
      (htype : d.session.heap.documentIsA p.document d.store.schema = true →
        later.session.heap.documentIsA copy.document d.store.schema = true) :
      Step d later (.cloned i d.handles.length)
  | inserted {i : Nat} {p : Persisted} {fresh : ObjectId} {now : Instant}
      (hp : d.handles[i]? = some p)
      (hhandles : later.handles = d.handles.set i { p with id? := some fresh })
      (hids : later.ids = d.ids ++ [fresh]) (hid : p.id? = none)
      (htype : d.session.heap.documentIsA p.document d.store.schema = true) :
      Step d later (.inserted i fresh now)
  | updated {i : Nat} {p : Persisted} {id : ObjectId} {now : Instant}
      (hp : d.handles[i]? = some p) (hhandles : later.handles = d.handles)
      (hids : later.ids = d.ids) (hid : p.id? = some id) : Step d later (.updated i id now)
  | removed {id : ObjectId} (hhandles : later.handles = d.handles)
      (hids : later.ids = d.ids.filter (· ≠ id)) (hmem : id ∈ d.ids) : Step d later (.removed id)
  | found {ps : List Persisted} {ids : List ObjectId} (hhandles : later.handles = d.handles ++ ps)
      (hids : later.ids = d.ids) (hfound : ps.map (·.id?) = ids.map some)
      (hmem : ∀ id ∈ ids, id ∈ d.ids)
      (htype : ∀ p ∈ ps, later.session.heap.documentIsA p.document d.store.schema = true) :
      Step d later (.found d.handles.length ids)

theorem saveEvent_of_ne {result : Except StoreError Bool} (hresult : result ≠ .ok true) (i : Nat)
    (p : Persisted) (now : Instant) (fresh : ObjectId) :
    saveEvent i p now fresh result = .nothing := by
  rw [saveEvent.eq_def]
  split
  · exact absurd rfl hresult
  · rfl

theorem deleteEvent_of_ne {result : Except StoreError Bool} (hresult : result ≠ .ok true)
    (p : Persisted) : deleteEvent p result = .nothing := by
  rw [deleteEvent.eq_def]
  split
  · exact absurd rfl hresult
  · rfl

end Desk

namespace Store

open Heap

variable {types : List Schema}

theorem newDocument_eq (store : Store) (h : Heap) :
    store.newDocument h = match store.schema.instantiate h with
      | (.ok r, h) => (.ok (.ofDocument r), h)
      | (.error e, h) => (.error e, h) := by
  change (store.schema.instantiate >>= fun r => pure (Persisted.ofDocument r)) h = _
  rw [Build.bind_apply]
  generalize store.schema.instantiate h = made
  obtain ⟨_ | r, h⟩ := made <;> rfl

/-- What a save does to identifiers: it inserts a new document, or does nothing to them. -/
theorem save_ids (store : Store) (p : Persisted) (now : Instant) (fresh : ObjectId)
    (took : String) (s : Session) {saved : Saved} (hsaved : store.save p now fresh took s = saved) :
    (saved.result ≠ .ok true ∧ saved.document = p ∧
      saved.store.collection.entries.map Prod.fst = store.collection.entries.map Prod.fst) ∨
    (saved.result = .ok true ∧ s.heap.documentIsA p.document store.schema = true ∧
      ((∃ id, p.id? = some id ∧ saved.document = p ∧
        saved.store.collection.entries.map Prod.fst = store.collection.entries.map Prod.fst) ∨
      (p.id? = none ∧ saved.document = { p with id? := some fresh } ∧
        saved.store.collection.entries.map Prod.fst =
          store.collection.entries.map Prod.fst ++ [fresh]))) := by
  subst hsaved
  rcases store.save_cases p now fresh took s with ⟨_, _, heq⟩ | ⟨_, _, _, heq⟩ | ⟨hisA, _, heq⟩
  · rw [heq]
    exact Or.inl ⟨by simp, rfl, rfl⟩
  · rw [heq]
    exact Or.inl ⟨by simp, rfl, rfl⟩
  · rw [heq, write]
    simp only
    split
    · next id hid =>
        split
        · exact Or.inl ⟨by simp, rfl, rfl⟩
        · next collection hupdate =>
            obtain ⟨-, rfl⟩ := Prod.mk.inj hupdate
            exact Or.inr ⟨rfl, hisA, Or.inl ⟨id, hid, rfl, Collection.map_fst_updateEntries ..⟩⟩
    · next hid =>
        refine Or.inr ⟨rfl, hisA, Or.inr ⟨hid, rfl, ?_⟩⟩
        simp [Collection.insert]

/-- What a deletion does to identifiers: it takes one away, or does nothing to them. -/
theorem delete_ids (store : Store) (p : Persisted) (took : String) (s : Session)
    {deleted : Except StoreError Bool × Store × Session}
    (hdelete : store.delete p took s = deleted) :
    (deleted.1 ≠ .ok true ∧ deleted.2.1.collection.entries.map Prod.fst =
      store.collection.entries.map Prod.fst) ∨
    ∃ id, deleted.1 = .ok true ∧ p.id? = some id ∧
      id ∈ store.collection.entries.map Prod.fst ∧
      deleted.2.1.collection.entries.map Prod.fst =
        (store.collection.entries.map Prod.fst).filter (· ≠ id) := by
  subst hdelete
  rw [delete]
  split
  · exact Or.inl ⟨by simp, rfl⟩
  · split
    · exact Or.inl ⟨by simp, rfl⟩
    · next id hid =>
        have hids := store.collection.map_fst_remove id
        by_cases hmem : id ∈ store.collection.entries.map Prod.fst
        · exact Or.inr ⟨id, congrArg Except.ok (Collection.isSome_find?_iff.mpr hmem), hid, hmem, hids⟩
        · refine Or.inl ⟨?_, hids.trans (List.filter_eq_self.mpr fun i hi => ?_)⟩
          · exact fun htrue => hmem (Collection.isSome_find?_iff.mp (Except.ok.inj htrue))
          · exact decide_eq_true fun heq => hmem (heq ▸ hi)

/-- The documents that are made of some entries have their identifiers and the store's type. -/
theorem hydrateAll_ids (hdecl : Declared types) {store : Store} (hschema : store.schema ∈ types)
    {entries : List (ObjectId × Json.Object)} {h : Heap} (hsound : h.Sound types)
    {ps : List Persisted} {later : Heap} (hall : store.hydrateAll h entries = (.ok ps, later)) :
    ps.map (·.id?) = (entries.map Prod.fst).map some ∧
      ∀ p ∈ ps, later.documentIsA p.document store.schema = true := by
  induction entries generalizing h ps with
  | nil =>
      cases hall
      exact ⟨rfl, by simp⟩
  | cons entry rest ih =>
      obtain ⟨id, data⟩ := entry
      obtain ⟨hone, htype⟩ := Schema.hydrate_runs hdecl hsound.ready_zero data store.schema hschema
      rw [hydrateAll, hydrate] at hall
      generalize store.schema.hydrate data h = made at hall hone htype
      obtain ⟨_ | r, mid⟩ := made
      · cases hall
      · have hmid := hone.sound hdecl hsound
        have hgrows := (hydrateAll_changes hdecl hschema rest hmid.ready_zero).grows
        simp only at hall hgrows
        cases hrest : store.hydrateAll mid rest with
        | mk results final =>
            rw [hrest] at hall hgrows
            cases results with
            | error e => cases hall
            | ok ps =>
                cases hall
                obtain ⟨hids, htypes⟩ := ih hmid hrest
                obtain ⟨_, d, hd, hsame⟩ := htype r rfl
                have hr : mid.documentIsA r store.schema = true :=
                  documentIsA_iff.mpr ⟨d, hd, hsame ▸ Schema.isA_refl _⟩
                exact ⟨by simp [hids], List.forall_mem_cons.mpr ⟨hgrows.documentIsA hr, htypes⟩⟩

theorem find_ids (hdecl : Declared types) {store : Store} (hschema : store.schema ∈ types)
    {s : Session} (hsound : s.heap.Sound types) {filter : Json.Object} {took : String}
    {ps : List Persisted} {later : Session}
    (hfind : store.find filter took s = (.ok ps, later)) :
    ps.map (·.id?) = ((store.collection.find filter).map Prod.fst).map some ∧
      ∀ p ∈ ps, later.heap.documentIsA p.document store.schema = true := by
  rw [find] at hfind
  split at hfind
  · cases hfind
  · next heq =>
      obtain ⟨hps, rfl⟩ := Prod.mk.inj hfind
      obtain rfl := Except.ok.inj hps
      rw [heap_log]
      exact hydrateAll_ids hdecl hschema hsound heq

end Store

namespace Desk

open Heap

variable {types : List Schema} {d : Desk} {a : Action}

/-- The action is over some given types, and its values are in order. -/
def Action.Over (types : List Schema) : Action → Prop
  | other op => op.Over types
  | _ => True

/-- What an action is for documents and lists, if it is anything at all. -/
def Action.operation? (d : Desk) : Action → Option Operation
  | create => some (.new d.store.schema)
  | persist _ => none
  | clone i => d.handles[i]?.map fun p => .clone p.document
  | save i now fresh took => d.handles[i]?.map fun p => .save d.store p now fresh took
  | delete i took => d.handles[i]?.map fun p => .delete d.store p took
  | find filter took => some (.find d.store filter took)
  | findOne id took => some (.findOne d.store id took)
  | findById text took => (ObjectId.parse? text).map fun id => .findOne d.store id took
  | other op => some op

theorem Action.operation?_over (hstore : d.store.schema ∈ types) (hover : a.Over types)
    {op : Operation} (hop : a.operation? d = some op) : op.Over types := by
  cases a with
  | create =>
      obtain rfl := Option.some.inj hop
      exact hstore
  | persist r => cases hop
  | clone i =>
      obtain ⟨p, _, rfl⟩ := Option.map_eq_some_iff.mp hop
      trivial
  | save i now fresh took =>
      obtain ⟨p, _, rfl⟩ := Option.map_eq_some_iff.mp hop
      exact hstore
  | delete i took =>
      obtain ⟨p, _, rfl⟩ := Option.map_eq_some_iff.mp hop
      exact hstore
  | find filter took =>
      obtain rfl := Option.some.inj hop
      exact hstore
  | findOne id took =>
      obtain rfl := Option.some.inj hop
      exact hstore
  | findById text took =>
      obtain ⟨id, _, rfl⟩ := Option.map_eq_some_iff.mp hop
      exact hstore
  | other op =>
      obtain rfl := Option.some.inj hop
      exact hover

theorem session_perform (d : Desk) (a : Action) : (d.perform a).2.session =
    (a.operation? d).elim d.session (Operation.perform d.session) := by
  have hlookUp : ∀ id took, (d.lookUp id took).2.session =
      Operation.perform d.session (.findOne d.store id took) := by
    intro id took
    rw [lookUp, Operation.perform]
    split <;> next heq => rw [heq]; rfl
  cases a with
  | create =>
      rw [perform, Store.newDocument_eq, Action.operation?, Option.elim_some, Operation.perform]
      generalize d.store.schema.instantiate d.session.heap = made
      obtain ⟨_ | r, h⟩ := made <;> rfl
  | persist r => rfl
  | clone i =>
      rw [perform, Action.operation?]
      cases d.handles[i]? <;> rfl
  | save i now fresh took =>
      rw [perform, Action.operation?]
      cases d.handles[i]? <;> rfl
  | delete i took =>
      rw [perform, Action.operation?]
      cases d.handles[i]? <;> rfl
  | find filter took =>
      rw [perform, Action.operation?, Option.elim_some, Operation.perform]
      split <;> next heq => rw [heq]; rfl
  | findOne id took => exact hlookUp id took
  | findById text took =>
      rw [perform, Action.operation?]
      cases ObjectId.parse? text with
      | none => rfl
      | some id => exact hlookUp id took
  | other op => rfl

theorem perform_session (hstore : d.store.schema ∈ types) (hover : a.Over types) :
    (d.perform a).2.session = d.session ∨
      ∃ op : Operation, op.Over types ∧ (d.perform a).2.session = op.perform d.session := by
  rw [session_perform]
  cases hop : a.operation? d with
  | none => exact Or.inl rfl
  | some op => exact Or.inr ⟨op, Action.operation?_over hstore hover hop, rfl⟩

theorem perform_reachable (hs : Reachable types d.session) (hstore : d.store.schema ∈ types)
    (hover : a.Over types) : Reachable types (d.perform a).2.session := by
  rcases perform_session hstore hover with heq | ⟨op, hop, heq⟩
  · exact heq ▸ hs
  · exact heq ▸ hs.perform hop

theorem perform_grows (hs : Reachable types d.session) (hstore : d.store.schema ∈ types)
    (hover : a.Over types) : d.session.heap.Grows (d.perform a).2.session.heap := by
  rcases perform_session hstore hover with heq | ⟨op, hop, heq⟩
  · exact heq ▸ .refl _
  · exact heq ▸ (Operation.perform_changes hs.declared hs.sound hop).grows

/-- An action changes nothing of the store but its collection. -/
theorem perform_store (d : Desk) (a : Action) : ∃ collection,
    (d.perform a).2.store = { d.store with collection := collection } := by
  have hlookUp : ∀ id took, (d.lookUp id took).2.store = d.store := by
    intro id took
    rw [lookUp]
    split <;> rfl
  cases a with
  | create =>
      rw [perform]
      split <;> exact ⟨d.store.collection, rfl⟩
  | save i now fresh took =>
      rw [perform]
      split
      · exact ⟨d.store.collection, rfl⟩
      · next p _ => exact d.store.save_store p now fresh took d.session
  | delete i took =>
      rw [perform]
      split
      · exact ⟨d.store.collection, rfl⟩
      · next p _ => exact d.store.delete_store p took d.session
  | clone i =>
      rw [perform]
      split <;> exact ⟨d.store.collection, rfl⟩
  | find filter took =>
      rw [perform]
      split <;> exact ⟨d.store.collection, rfl⟩
  | findOne id took => exact ⟨d.store.collection, hlookUp id took⟩
  | findById text took =>
      rw [perform]
      split
      · exact ⟨d.store.collection, rfl⟩
      · next id _ => exact ⟨d.store.collection, hlookUp id took⟩
  | _ => exact ⟨d.store.collection, rfl⟩

theorem lookUp_step (hs : Reachable types d.session) (hstore : d.store.schema ∈ types)
    (id : ObjectId) (took : String) :
    Step d (d.lookUp id took).2 (d.lookUp id took).1 := by
  rw [lookUp]
  split
  · next p s hfound =>
      have hmem : (d.store.collection.find? id).isSome = true := by
        rw [Store.findOne] at hfound
        cases hdata : d.store.collection.find? id with
        | none => simp [hdata] at hfound
        | some data => rfl
      obtain ⟨data, hdata⟩ := Option.isSome_iff_exists.mp hmem
      obtain ⟨hid, hhydrate⟩ := Store.findOne_found hdata hfound
      have htype := (Schema.hydrate_runs hs.declared hs.sound.ready_zero data _ hstore).2
      rw [hhydrate] at htype
      obtain ⟨_, c, hc, hschema⟩ := htype p.document rfl
      refine .found rfl rfl (by simp [hid]) ?_ ?_
      · exact List.forall_mem_singleton.mpr (Collection.isSome_find?_iff.mp hmem)
      · exact List.forall_mem_singleton.mpr
          (documentIsA_iff.mpr ⟨c, hc, hschema ▸ Schema.isA_refl _⟩)
  · exact .nothing (List.append_nil _) rfl

/-- Whatever an action does to identifiers is one of the steps. -/
theorem perform_step (hs : Reachable types d.session) (hstore : d.store.schema ∈ types)
    (a : Action) : Step d (d.perform a).2 (d.perform a).1 := by
  cases a with
  | create =>
      rw [perform, Store.newDocument_eq]
      generalize d.store.schema.instantiate d.session.heap = made
      obtain ⟨_ | r, h⟩ := made
      · exact .nothing (List.append_nil _) rfl
      · exact .wrapped rfl rfl rfl
  | persist r => exact .wrapped rfl rfl rfl
  | clone i =>
      rw [perform]
      split
      · exact .nothing rfl rfl
      · next p hp =>
          have hcopy : ∀ c, d.session.heap.document? p.document = some c →
              ∃ copy, (d.session.heap.clone p.document).2.document?
                (d.session.heap.clone p.document).1 = some copy ∧ copy.schema = c.schema :=
            fun c hc => by
              obtain ⟨copy, hcopy, hschema, _⟩ := clone_copyOf hc
              exact ⟨copy, hcopy, hschema⟩
          generalize d.session.heap.clone p.document = made at hcopy
          obtain ⟨r, h⟩ := made
          refine .cloned hp rfl rfl rfl fun htype => ?_
          obtain ⟨c, hc, hisA⟩ := documentIsA_iff.mp htype
          obtain ⟨copy, hcopy, hschema⟩ := hcopy c hc
          exact documentIsA_iff.mpr ⟨copy, hcopy, hschema ▸ hisA⟩
  | save i now fresh took =>
      rw [perform]
      split
      · exact .nothing rfl rfl
      · next p hp =>
          have hids := d.store.save_ids p now fresh took d.session rfl
          generalize d.store.save p now fresh took d.session = saved at hids
          obtain ⟨result, p', later, s⟩ := saved
          simp only at hids ⊢
          have hsame : d.handles.set i p = d.handles := by
            obtain ⟨hi, rfl⟩ := List.getElem?_eq_some_iff.mp hp
            exact List.set_getElem_self hi
          rcases hids with
            ⟨hfailed, rfl, hids⟩ | ⟨rfl, htype, ⟨id, hid, rfl, hids⟩ | ⟨hid, rfl, hids⟩⟩
          · rw [saveEvent_of_ne hfailed]
            exact .nothing hsame hids
          · rw [saveEvent.eq_def, hid]
            exact .updated hp hsame hids hid
          · rw [saveEvent.eq_def, hid]
            exact .inserted hp rfl hids hid htype
  | delete i took =>
      rw [perform]
      split
      · exact .nothing rfl rfl
      · next p hp =>
          have hids := d.store.delete_ids p took d.session rfl
          generalize d.store.delete p took d.session = deleted at hids
          obtain ⟨result, later, s⟩ := deleted
          simp only at hids ⊢
          rcases hids with ⟨hfailed, hids⟩ | ⟨id, rfl, hid, hmem, hids⟩
          · rw [deleteEvent_of_ne hfailed]
            exact .nothing rfl hids
          · rw [deleteEvent.eq_def, hid]
            exact .removed rfl hids hmem
  | find filter took =>
      rw [perform]
      split
      · next ps s hfound =>
          obtain ⟨hids, htype⟩ := Store.find_ids hs.declared hstore hs.sound hfound
          refine .found rfl rfl hids (fun id hid => ?_) htype
          obtain ⟨e, he, rfl⟩ := List.mem_map.mp hid
          exact List.mem_map_of_mem (List.mem_of_mem_filter he)
      · exact .nothing (List.append_nil _) rfl
  | findOne id took => exact lookUp_step hs hstore id took
  | findById text took =>
      rw [perform]
      split
      · exact .nothing rfl rfl
      · exact lookUp_step hs hstore _ took
  | other op => exact .nothing (List.append_nil _) rfl

/-! ### Runs -/

/-- The identifiers under which something was inserted in the course of a history, latest first. -/
def inserted (history : List Event) : List ObjectId :=
  history.filterMap fun
    | .inserted _ id _ => some id
    | _ => none

/-- The identifiers of what was removed in the course of a history, latest first. -/
def removed (history : List Event) : List ObjectId :=
  history.filterMap fun
    | .removed id => some id
    | _ => none

/-- An identifier that is generated has not been generated before. -/
def Event.Fresh (history : List Event) : Event → Prop
  | inserted _ id _ => id ∉ Desk.inserted history
  | _ => True

/-- A history of events, the latest first, and the desk that it leaves.  It starts with a store whose
collection is empty, at any state of a program; types are declared along the way. -/
inductive Run : List Schema → List Event → Desk → Prop
  | start {types : List Schema} {s : Session} {schema : Schema} {name : String}
      {config : StoreConfig} {store : Store} (hs : Reachable types s) (hschema : schema ∈ types)
      (hstore : Store.create? schema name config = .ok store) : Run types [] ⟨store, s, []⟩
  | declare {types : List Schema} {history : List Event} {d : Desk} {new : Schema}
      (hrun : Run types history d) (hnew : Declared (new :: types))
      (hwithin : new.Within d.session.heap) : Run (new :: types) history d
  | act {types : List Schema} {history : List Event} {d : Desk} (a : Action)
      (hrun : Run types history d) (hover : a.Over types)
      (hfresh : (d.perform a).1.Fresh history) :
      Run types ((d.perform a).1 :: history) (d.perform a).2

variable {history : List Event} {later : Desk} {event : Event}

theorem create?_eq_ok {schema : Schema} {name : String} {config : StoreConfig} {store : Store}
    (hstore : Store.create? schema name config = .ok store) :
    store = ⟨schema, name, .empty, config⟩ := by
  rw [Store.create?] at hstore
  split at hstore
  · cases hstore
  · exact (Except.ok.inj hstore).symm

theorem Run.reachable (hrun : Run types history d) :
    Reachable types d.session ∧ d.store.schema ∈ types := by
  induction hrun with
  | start hs hschema hstore =>
      obtain rfl := create?_eq_ok hstore
      exact ⟨hs, hschema⟩
  | declare _ hnew hwithin ih =>
      exact ⟨ih.1.declare hnew hwithin, List.mem_cons_of_mem _ ih.2⟩
  | @act _ _ d a _ hover _ ih =>
      obtain ⟨collection, hstore⟩ := d.perform_store a
      exact ⟨perform_reachable ih.1 ih.2 hover, hstore ▸ ih.2⟩

/-- A history accounts for the entries of the collection: what is there and what was removed is,
taken together, what was inserted. -/
structure Accounts (history : List Event) (d : Desk) : Prop where
  nodup : (inserted history).Nodup
  perm : (d.ids ++ removed history).Perm (inserted history)

namespace Accounts

theorem ids_nodup (hd : Accounts history d) : (d.ids ++ removed history).Nodup :=
  hd.perm.nodup_iff.mpr hd.nodup

theorem step (hd : Accounts history d) (hstep : Step d later event)
    (hfresh : event.Fresh history) : Accounts (event :: history) later := by
  cases hstep with
  | inserted _ _ hids _ _ =>
      refine ⟨List.nodup_cons.mpr ⟨hfresh, hd.nodup⟩, ?_⟩
      rw [hids, List.append_assoc]
      exact List.perm_middle.trans (hd.perm.cons _)
  | @removed id _ hids hmem =>
      refine ⟨hd.nodup, ?_⟩
      have hnodup : d.ids.Nodup := (List.nodup_append.mp hd.ids_nodup).1
      have hsplit : (id :: d.ids.filter (· ≠ id)).Perm d.ids := by
        have herase : d.ids.filter (· ≠ id) = d.ids.erase id := by
          rw [hnodup.erase_eq_filter]
          exact List.filter_congr fun i _ => Bool.eq_iff_iff.mpr (by simp)
        rw [herase]
        exact (List.perm_cons_erase hmem).symm
      rw [hids]
      exact List.perm_middle.trans ((hsplit.append_right _).trans hd.perm)
  | nothing _ hids => exact ⟨hd.nodup, hids ▸ hd.perm⟩
  | wrapped _ hids _ => exact ⟨hd.nodup, hids ▸ hd.perm⟩
  | cloned _ _ hids _ _ => exact ⟨hd.nodup, hids ▸ hd.perm⟩
  | updated _ _ hids _ => exact ⟨hd.nodup, hids ▸ hd.perm⟩
  | found _ hids _ _ _ => exact ⟨hd.nodup, hids ▸ hd.perm⟩

end Accounts

/-- In the course of a run the history accounts for the entries. -/
theorem Run.accounts (hrun : Run types history d) : Accounts history d := by
  induction hrun with
  | start _ _ hstore =>
      obtain rfl := create?_eq_ok hstore
      exact ⟨.nil, .nil⟩
  | declare _ _ _ ih => exact ih
  | act a hrun _ hfresh ih => exact ih.step (perform_step hrun.reachable.1 hrun.reachable.2 a) hfresh

end Desk

end DocumentModel
