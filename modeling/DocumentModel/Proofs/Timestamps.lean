/-
Times of creation and of modification.

A store puts the time of every save into one field of the document and the time of the first save
into another, and writes both with every save.  Documents hold the first to the nanosecond until
they are loaded and to the millisecond from then on, and any handle of an entry can write it.  What
is stored stays what the insertion wrote: whoever has the identifier of an entry holds a time that
is written like the one of its insertion.
-/
import DocumentModel.Proofs.CollectionRuns
import DocumentModel.Proofs.FailedSave
import DocumentModel.Proofs.Reading
import DocumentModel.Proofs.Retaining
import DocumentModel.Proofs.StoreRuns

namespace DocumentModel

/-- The type has a date-time field of a name. -/
def Schema.HasDate (s : Schema) (name : String) : Prop :=
  ∃ f ∈ s.fields, f.name = name ∧ f.kind = .dateTime

/-- Two different date-time fields take the times of the store. -/
structure Store.Timed (store : Store) : Prop where
  distinct : store.config.createdField ≠ store.config.modifiedField
  created : store.schema.HasDate store.config.createdField
  modified : store.schema.HasDate store.config.modifiedField

/-- An instant that can be read back is read as one that is written the same. -/
theorem Value.ofJson_instant {now : Instant} (hnow : Instant.inRange now.floorMillis = true) :
    ∃ t, ofJson now.toJson = .instant t ∧ t.toJson = now.toJson := by
  have hread := dateMillis?_dateMember (Instant.fitsInt64_of_inRange hnow)
  refine ⟨Instant.ofMillis now.floorMillis, ?_, ?_⟩
  · simp only [Instant.toJson, ofJson, ofWrapper?, hread, Option.map_some, Option.getD_some]
  · rw [Instant.toJson, Instant.floorMillis_ofMillis hnow, Instant.toJson]

namespace Document

variable {d : Document} {f : Field}

theorem value_timed_date (now : Instant) (hfield : d.schema.field? f.name = some f)
    (hkind : f.kind = .dateTime) (hslot : (d.slot? f.name).isSome = true) :
    (d.timed now f.name).value f.name = .instant now := by
  obtain ⟨slot, hslot⟩ := Option.isSome_iff_exists.mp hslot
  rw [value_of_slot? (slot?_timed_self now hfield hslot), hkind]
  rfl

/-- A date-time field among those that take a time holds it. -/
theorem value_foldl_timed (now : Instant) (hfield : d.schema.field? f.name = some f)
    (hkind : f.kind = .dateTime) (hslot : (d.slot? f.name).isSome = true) {names : List String}
    (hname : f.name ∈ names) : (names.foldl (timed now) d).value f.name = .instant now := by
  induction names using List.reverseRecOn with
  | nil => cases hname
  | append_singleton names name ih =>
      rw [List.foldl_append, List.foldl_cons, List.foldl_nil]
      by_cases hlast : f.name = name
      · subst hlast
        apply value_timed_date now _ hkind (isSome_slot?_foldl_timed now hfield hslot names)
        rw [schema_foldl_timed]
        exact hfield
      · rw [value_timed_of_ne now _ hlast]
        exact ih ((List.mem_append.mp hname).resolve_right (by simpa using hlast))

end Document

namespace Heap

variable {types : List Schema} {h later : Heap} {r : DocRef} {name : String} {now : Instant}

/-- A field holds a time that is written like a given one. -/
def HoldsTime (h : Heap) (r : DocRef) (name : String) (now : Instant) : Prop :=
  ∃ d t, h.document? r = some d ∧ d.value name = .instant t ∧ t.toJson = now.toJson

theorem HoldsTime.retain (ht : h.HoldsTime r name now) (hretains : h.Retains r name later) :
    later.HoldsTime r name now := by
  obtain ⟨d, t, hd, hvalue, hjson⟩ := ht
  obtain ⟨d', hd', _, hsame⟩ := hretains d hd
  exact ⟨d', t, hd', hsame.trans hvalue, hjson⟩

theorem HoldsTime.mem_data (ht : h.HoldsTime r name now) {d : Document}
    (hd : h.document? r = some d) (hname : d.schema.HasDate name) :
    (name, now.toJson) ∈ h.data r := by
  obtain ⟨e, t, he, hvalue, hjson⟩ := ht
  obtain rfl := Option.some.inj (hd.symm.trans he)
  obtain ⟨f, hf, rfl, _⟩ := hname
  obtain ⟨depth, hmem⟩ := exists_mem_data hd hf
  rwa [hvalue, toJsonAt, Value.toJsonWith, hjson] at hmem

end Heap

namespace Store

open Heap

variable {types : List Schema} {store : Store} {s : Session} {p : Persisted} {now : Instant}
  {fresh : ObjectId} {took : String} {saved : Saved}

/-! ### What a save does -/

/-- A save that does not succeed changes one field at most: for want of the entry, the time may be
in the field for the time of modification. -/
theorem save_fails (hsaved : store.save p now fresh took s = saved)
    (hfailed : saved.result ≠ .ok true) : saved.store = store ∧ saved.document = p ∧
      ∀ r name, saved.result = .ok false ∨ name ≠ store.config.modifiedField →
        s.heap.Retains r name saved.session.heap := by
  subst hsaved
  have hmarked := s.validate_marked p.document
  rcases store.save_cases p now fresh took s with
    ⟨_, _, heq⟩ | ⟨_, later, hlater, heq⟩ | ⟨_, _, heq⟩
  · rw [heq]
    exact ⟨rfl, rfl, fun r name _ => .refl s.heap r name⟩
  · rw [heq]
    exact ⟨rfl, rfl, fun r name _ => hlater ▸ hmarked.retains⟩
  · rw [heq] at hfailed ⊢
    obtain ⟨_, _, _, heq⟩ := write_fails hfailed
    rw [heq]
    refine ⟨rfl, rfl, fun r name hname => ?_⟩
    have hother : name ≠ store.config.modifiedField := hname.resolve_left (by simp)
    exact hmarked.retains.trans (set_retains _ (fun _ => Ne.symm hother) _)

/-- After a save that succeeds, the fields that take its time hold it. -/
theorem save_dates (hdecl : Declared types) (hsound : s.heap.Sound types) {d : Document}
    (hd : s.heap.document? p.document = some d) (hsaved : store.save p now fresh took s = saved)
    (hresult : saved.result = .ok true) :
    ∃ d', saved.session.heap.document? p.document = some d' ∧ d'.schema = d.schema ∧
      ∀ name ∈ store.timeFields p.isNew, d.schema.HasDate name →
        d'.value name = .instant now := by
  subst hsaved
  obtain ⟨_, _, e, hd'⟩ := save_document hd hresult
  refine ⟨_, hd', Document.schema_foldl_timed now _ _, ?_⟩
  rintro name htakes ⟨f, hf, rfl, hkind⟩
  obtain ⟨slot, hslot, _⟩ := hsound.slot_of_field hdecl hd hf
  have hfield := Schema.field?_of_mem (hdecl.fieldNames_nodup (hsound.schema hd)) hf
  exact Document.value_foldl_timed (d := { d with errors := e }) now hfield hkind
    (Option.isSome_of_mem hslot) htakes

/-- Only the first save of a document changes its time of creation. -/
theorem save_retains_created (htimed : store.Timed) (hsaved : store.save p now fresh took s = saved)
    {r : DocRef} (hold : p.document = r → p.id? ≠ none) :
    s.heap.Retains r store.config.createdField saved.session.heap := by
  rw [← hsaved]
  apply store.save_retains
  intro hr
  have hold : p.isNew = false := by simpa [Persisted.isNew, Option.isSome_iff_ne_none] using hold hr
  simp [timeFields, hold, htimed.distinct]

/-- What is written under the identifier has the times that the document holds. -/
theorem Writes.get?_time (hwrites : store.Writes p fresh s saved) {data : Json.Object}
    (hdata : saved.store.collection.find? (p.id?.getD fresh) = some data) {d : Document}
    (hd : saved.session.heap.document? p.document = some d) {name : String}
    (hname : d.schema.HasDate name)
    (htime : saved.session.heap.HoldsTime p.document name now) :
    data.get? name = some now.toJson := by
  obtain ⟨stored, hstored, hmembers⟩ := hwrites.written.found
  obtain rfl := Option.some.inj (hstored.symm.trans hdata)
  exact hmembers _ (htime.mem_data hd hname)

end Store

namespace Collection

theorem lookup_filter_ne {entries : List (ObjectId × Json.Object)} {id other : ObjectId}
    (hne : other ≠ id) :
    (entries.filter fun e => e.1 ≠ id).lookup other = entries.lookup other := by
  induction entries with
  | nil => rfl
  | cons first rest ih =>
      obtain ⟨i, data⟩ := first
      by_cases hi : i = id
      · have hkey : (other == i) = false := by simpa [hi] using hne
        rw [List.filter_cons_of_neg (by simpa using hi), List.lookup_cons, hkey, ih]
      · rw [List.filter_cons_of_pos (by simpa using hi), List.lookup_cons, List.lookup_cons, ih]

theorem Written.find?_of_ne {c later : Collection} {id other : ObjectId} {data : Json.Object}
    {isNew : Bool} (hwritten : c.Written id data isNew later) (hne : other ≠ id) :
    later.find? other = c.find? other := by
  rw [find?, find?, ← lookup_filter_ne hne, hwritten.others, lookup_filter_ne hne]

theorem find?_of_remove {c : Collection} {id other : ObjectId} {data : Json.Object}
    (hfound : (c.remove id).2.find? other = some data) : c.find? other = some data := by
  by_cases hother : other = id
  · rw [hother, find?_remove_self] at hfound
    cases hfound
  · rw [find?, remove, lookup_filter_ne hother] at hfound
    exact hfound

end Collection

namespace Store

open Heap

variable {types : List Schema} {store : Store} {h mid later : Heap} {e : ObjectId × Json.Object}
  {p : Persisted}

/-! ### What is loaded -/

/-- A new document was made of an entry, with the dates that are written there. -/
structure Loads (store : Store) (h : Heap) (e : ObjectId × Json.Object) (later : Heap)
    (p : Persisted) : Prop where
  id : p.id? = some e.1
  new : h.document? p.document = none
  exact : ∃ d, later.document? p.document = some d ∧ d.schema = store.schema
  dates : ∀ name now, Instant.inRange now.floorMillis = true → store.schema.HasDate name →
    e.2.get? name = some now.toJson → later.HoldsTime p.document name now

theorem Loads.retain (hp : store.Loads h e mid p)
    (hretains : ∀ name, mid.Retains p.document name later) : store.Loads h e later p where
  id := hp.id
  new := hp.new
  exact := by
    obtain ⟨d, hd, hschema⟩ := hp.exact
    obtain ⟨d', hd', hsame, _⟩ := hretains store.config.createdField d hd
    exact ⟨d', hd', hsame.trans hschema⟩
  dates name now hnow hname hget := (hp.dates name now hnow hname hget).retain (hretains name)

theorem Loads.before (hp : store.Loads mid e later p) (hgrows : h.Grows mid) :
    store.Loads h e later p :=
  { hp with
    new := by
      cases hd : h.document? p.document with
      | none => rfl
      | some d =>
          obtain ⟨d', hd', _⟩ := hgrows.document hd
          cases hp.new.symm.trans hd' }

theorem hydrate_loads (hdecl : Declared types) (hschema : store.schema ∈ types)
    (hsound : h.Sound types) {id : ObjectId} {data : Json.Object}
    (hrun : store.hydrate id data h = (.ok p, later)) :
    store.Loads h (id, data) later p ∧ Changes types h.documents.length h.lists.length h later := by
  rw [hydrate] at hrun
  cases hmade : store.schema.hydrate data h with
  | mk result made =>
      rw [hmade] at hrun
      cases result with
      | error e => cases hrun
      | ok r =>
          simp only [Prod.mk.injEq, Except.ok.injEq] at hrun
          obtain ⟨rfl, rfl⟩ := hrun
          obtain ⟨hchanges, hpost⟩ :=
            Schema.hydrate_runs hdecl hsound.ready data store.schema hschema
          rw [hmade] at hchanges hpost
          obtain ⟨hnew, d, hd, hsame⟩ := hpost r rfl
          obtain ⟨_, _, hmade', _, _, _, hreads⟩ := Schema.hydrate_reads hdecl hsound data
            store.schema hschema (Or.inr ⟨r, made, hmade⟩)
          obtain ⟨hr, hlater⟩ := Prod.mk.inj (hmade.symm.trans hmade')
          obtain rfl := Except.ok.inj hr
          subst hlater
          refine ⟨⟨rfl, List.getElem?_eq_none hnew, ⟨d, hd, hsame⟩, ?_⟩, hchanges⟩
          rintro name now hnow ⟨f, hf, rfl, hkind⟩ hget
          obtain ⟨d', hd', hread⟩ := hreads f hf _ hget
          rw [hkind] at hread
          obtain ⟨t, ht, hjson⟩ := Value.ofJson_instant hnow
          exact ⟨d', t, hd', (hread trivial).1.trans ht, hjson⟩

/-- Entries that are loaded one after the other become different documents. -/
theorem hydrateAll_loads (hdecl : Declared types) (hschema : store.schema ∈ types)
    {entries : List (ObjectId × Json.Object)} (hsound : h.Sound types) {ps : List Persisted}
    (hall : store.hydrateAll h entries = (.ok ps, later)) :
    (ps.map (·.document)).Nodup ∧ ∀ p ∈ ps, ∃ e ∈ entries, store.Loads h e later p := by
  induction entries generalizing h ps with
  | nil =>
      cases hall
      exact ⟨.nil, by simp⟩
  | cons entry rest ih =>
      obtain ⟨id, data⟩ := entry
      rw [hydrateAll] at hall
      cases hone : store.hydrate id data h with
      | mk result mid =>
          rw [hone] at hall
          cases result with
          | error e => cases hall
          | ok p =>
              obtain ⟨hp, hchanges⟩ := hydrate_loads hdecl hschema hsound hone
              have hmid := hchanges.sound hdecl hsound
              have hkeeps := (hydrateAll_changes hdecl hschema rest hmid.ready).keeps
              cases hrest : store.hydrateAll mid rest with
              | mk results final =>
                  rw [hrest] at hkeeps
                  simp only [hrest] at hall
                  cases results with
                  | error e => cases hall
                  | ok ps =>
                      cases hall
                      obtain ⟨hapart, hps⟩ := ih hmid hrest
                      obtain ⟨d, hd, _⟩ := hp.exact
                      -- the first document was there when the others were made
                      have hfirst : p.document ∉ ps.map (·.document) := by
                        intro hmem
                        obtain ⟨q, hq, heq⟩ := List.mem_map.mp hmem
                        obtain ⟨e, _, hloads⟩ := hps q hq
                        cases hd.symm.trans (heq ▸ hloads.new)
                      refine ⟨List.nodup_cons.mpr ⟨hfirst, hapart⟩,
                        List.forall_mem_cons.mpr ⟨?_, ?_⟩⟩
                      · exact ⟨_, List.mem_cons_self, hp.retain fun name => hkeeps.retains⟩
                      · intro q hq
                        obtain ⟨e, he, hloads⟩ := hps q hq
                        exact ⟨e, List.mem_cons_of_mem _ he, hloads.before hchanges.grows⟩

theorem find_loads (hdecl : Declared types) (hschema : store.schema ∈ types) {s later : Session}
    (hsound : s.heap.Sound types) {filter : Json.Object} {took : String} {ps : List Persisted}
    (hfind : store.find filter took s = (.ok ps, later)) :
    (ps.map (·.document)).Nodup ∧
      ∀ p ∈ ps, ∃ e ∈ store.collection.find filter, store.Loads s.heap e later.heap p := by
  rw [find] at hfind
  split at hfind
  · cases hfind
  · next hall =>
      obtain ⟨hps, rfl⟩ := Prod.mk.inj hfind
      obtain rfl := Except.ok.inj hps
      rw [heap_log]
      exact hydrateAll_loads hdecl hschema hsound hall

theorem findOne_loads (hdecl : Declared types) (hschema : store.schema ∈ types) {s later : Session}
    (hsound : s.heap.Sound types) {id : ObjectId} {took : String}
    (hload : store.findOne id took s = (.ok (some p), later)) :
    ∃ data, store.collection.find? id = some data ∧
      store.Loads s.heap (id, data) later.heap p := by
  cases hfound : store.collection.find? id with
  | none =>
      have hnone := findOne_of_none hfound took s
      rw [hload] at hnone
      cases hnone
  | some data =>
      obtain ⟨hid, hrun⟩ := findOne_found hfound hload
      refine ⟨data, rfl, (hydrate_loads hdecl hschema hsound ?_).1⟩
      rw [hydrate, hrun, ← hid]

/-- A deletion adds nothing. -/
theorem find?_of_delete {s : Session} {took : String} {id : ObjectId} {data : Json.Object}
    (hfound : (store.delete p took s).2.1.collection.find? id = some data) :
    store.collection.find? id = some data := by
  rw [delete] at hfound
  split at hfound
  · exact hfound
  · split at hfound
    · exact hfound
    · exact Collection.find?_of_remove hfound

end Store

namespace Desk

open Heap

variable {types : List Schema} {history : List Event} {d later : Desk} {p : Persisted}

/-! ### What holds at a desk -/

/-- Something was inserted under an identifier at a given time. -/
def InsertedAt (history : List Event) (id : ObjectId) (now : Instant) : Prop :=
  ∃ handle, Event.inserted handle id now ∈ history

theorem InsertedAt.mem {id : ObjectId} {now : Instant} (hid : InsertedAt history id now) :
    id ∈ inserted history := by
  obtain ⟨handle, hmem⟩ := hid
  exact List.mem_filterMap.mpr ⟨_, hmem, rfl⟩

theorem insertedAt_cons {event : Event} {id : ObjectId} {now : Instant} :
    InsertedAt (event :: history) id now ↔
      (∃ handle, event = .inserted handle id now) ∨ InsertedAt history id now := by
  simp only [InsertedAt, List.mem_cons, exists_or, eq_comm]

/-- A wrapped document is exactly of the type of the store.  If it has an identifier, something was
inserted under that, and its time of creation is written like the time of the insertion. -/
structure Dated (history : List Event) (store : Store) (h : Heap) (p : Persisted) : Prop where
  exact : ∃ c, h.document? p.document = some c ∧ c.schema = store.schema
  known : ∀ id, p.id? = some id → id ∈ inserted history
  created : ∀ id now, p.id? = some id → InsertedAt history id now →
    h.HoldsTime p.document store.config.createdField now

/-- Handles are of different documents, all of them dated, and what is stored as the time of
creation of an entry is the time of its insertion. -/
structure Stamped (history : List Event) (d : Desk) : Prop where
  dated : ∀ p ∈ d.handles, Dated history d.store d.session.heap p
  apart : (d.handles.map (·.document)).Nodup
  clock : ∀ id now, InsertedAt history id now → Instant.inRange now.floorMillis = true
  stored : ∀ id now data, InsertedAt history id now → d.store.collection.find? id = some data →
    data.get? d.store.config.createdField = some now.toJson

theorem Dated.of_new {store : Store} {h : Heap} (hid : p.id? = none)
    (hexact : ∃ c, h.document? p.document = some c ∧ c.schema = store.schema) :
    Dated history store h p where
  exact := hexact
  known id hsome := by cases hid.symm.trans hsome
  created id now hsome := by cases hid.symm.trans hsome

theorem Dated.retain {store : Store} {h later : Heap} (hp : Dated history store h p)
    (hretains : h.Retains p.document store.config.createdField later) :
    Dated history store later p where
  exact := by
    obtain ⟨c, hc, hschema⟩ := hp.exact
    obtain ⟨c', hc', hsame, _⟩ := hretains c hc
    exact ⟨c', hc', hsame.trans hschema⟩
  known := hp.known
  created id now hid hat := (hp.created id now hid hat).retain hretains

/-- An event that inserts nothing changes nothing that is known of the identifiers. -/
theorem Stamped.quiet (hd : Stamped history d) {event : Event}
    (hevent : ∀ handle id now, event ≠ .inserted handle id now) :
    Stamped (event :: history) d := by
  have hat : ∀ {id now}, InsertedAt (event :: history) id now → InsertedAt history id now := by
    intro id now hid
    apply (insertedAt_cons.mp hid).resolve_left
    rintro ⟨handle, heq⟩
    exact hevent handle id now heq
  constructor
  · intro p hp
    have hdated := hd.dated p hp
    refine ⟨hdated.exact, fun id hid => ?_,
      fun id now hid hin => hdated.created id now hid (hat hin)⟩
    exact (List.sublist_cons_self event history).filterMap _ |>.subset (hdated.known id hid)
  · exact hd.apart
  · exact fun id now hid => hd.clock id now (hat hid)
  · exact fun id now data hid hfound => hd.stored id now data (hat hid) hfound

/-- More documents are wrapped, and no more is stored than there was. -/
theorem Stamped.extend (hd : Stamped history d) (later : Desk) (ps : List Persisted)
    (hhandles : later.handles = d.handles ++ ps)
    (hstore : ∃ collection, later.store = { d.store with collection := collection })
    (hfound : ∀ id data, later.store.collection.find? id = some data →
      d.store.collection.find? id = some data)
    (hretains : ∀ p ∈ d.handles,
      d.session.heap.Retains p.document d.store.config.createdField later.session.heap)
    (hnew : ∀ p ∈ ps, Dated history d.store later.session.heap p)
    (hapart : (ps.map (·.document)).Nodup)
    (hothers : ∀ p ∈ ps, ∀ q ∈ d.handles, q.document ≠ p.document) : Stamped history later := by
  obtain ⟨collection, hstore⟩ := hstore
  have hdated : ∀ p, Dated history d.store later.session.heap p →
      Dated history later.store later.session.heap p := by
    intro p hp
    rw [hstore]
    exact ⟨hp.exact, hp.known, hp.created⟩
  constructor
  · rw [hhandles, List.forall_mem_append]
    constructor
    · exact fun p hp => hdated p ((hd.dated p hp).retain (hretains p hp))
    · exact fun p hp => hdated p (hnew p hp)
  · rw [hhandles, List.map_append]
    refine List.nodup_append.mpr ⟨hd.apart, hapart, ?_⟩
    intro r hr r' hr' heq
    obtain ⟨q, hq, rfl⟩ := List.mem_map.mp hr
    obtain ⟨p, hp, rfl⟩ := List.mem_map.mp hr'
    exact hothers p hp q hq heq
  · exact hd.clock
  · intro id now data hid hdata
    rw [hstore]
    exact hd.stored id now data hid (hfound id data hdata)

/-- No more documents are wrapped. -/
theorem Stamped.onward (hd : Stamped history d) (later : Desk)
    (hhandles : later.handles = d.handles)
    (hstore : ∃ collection, later.store = { d.store with collection := collection })
    (hfound : ∀ id data, later.store.collection.find? id = some data →
      d.store.collection.find? id = some data)
    (hretains : ∀ p ∈ d.handles,
      d.session.heap.Retains p.document d.store.config.createdField later.session.heap) :
    Stamped history later :=
  hd.extend later [] (by rw [hhandles, List.append_nil]) hstore hfound hretains (by simp) .nil
    (by simp)

/-- New documents are wrapped. -/
theorem Stamped.hold (hd : Stamped history d) (s : Session) (ps : List Persisted)
    (hretains : ∀ p ∈ d.handles,
      d.session.heap.Retains p.document d.store.config.createdField s.heap)
    (hnew : ∀ p ∈ ps, d.session.heap.document? p.document = none ∧ Dated history d.store s.heap p)
    (hapart : (ps.map (·.document)).Nodup) : Stamped history (d.hold s ps) := by
  refine hd.extend _ ps rfl ⟨d.store.collection, rfl⟩ (fun _ _ hfound => hfound) hretains
    (fun p hp => (hnew p hp).2) hapart fun p hp q hq heq => ?_
  obtain ⟨c, hc, _⟩ := (hd.dated q hq).exact
  rw [heq, (hnew p hp).1] at hc
  cases hc

/-- What has not been inserted is not there. -/
theorem Accounts.find?_of_fresh (haccounts : Accounts history d) {id : ObjectId}
    (hid : id ∉ inserted history) : d.store.collection.find? id = none :=
  Collection.find?_eq_none_iff.mpr fun hmem =>
    hid (haccounts.perm.subset (List.mem_append_left _ hmem))

/-- What is loaded from the collection is dated. -/
theorem Stamped.dated_of_loads (hd : Stamped history d) (haccounts : Accounts history d)
    (htimed : d.store.Timed) {e : ObjectId × Json.Object}
    (he : d.store.collection.find? e.1 = some e.2) {h : Heap}
    (hp : d.store.Loads d.session.heap e h p) : Dated history d.store h p where
  exact := hp.exact
  known id hid := by
    obtain rfl := Option.some.inj (hp.id.symm.trans hid)
    have hmem : e.1 ∈ d.ids := Collection.isSome_find?_iff.mp (by rw [he]; rfl)
    exact haccounts.perm.subset (List.mem_append_left _ hmem)
  created id now hid hat := by
    obtain rfl := Option.some.inj (hp.id.symm.trans hid)
    exact hp.dates _ now (hd.clock _ now hat) htimed.created (hd.stored _ now _ hat he)

/-! ### Saves -/

theorem insertedAt_save {i : Nat} {now now' : Instant} {fresh id : ObjectId} :
    InsertedAt (saveEvent i p now fresh (.ok true) :: history) id now' ↔
      (p.id? = none ∧ id = fresh ∧ now' = now) ∨ InsertedAt history id now' := by
  rw [insertedAt_cons, saveEvent]
  cases p.id? <;> simp [eq_comm]

theorem mem_set_of_apart {handles : List Persisted} (hapart : (handles.map (·.document)).Nodup)
    {i : Nat} (hp : handles[i]? = some p) {q p' : Persisted} (hq : q ∈ handles.set i p') :
    q = p' ∨ (q ∈ handles ∧ q.document ≠ p.document) := by
  obtain ⟨hi, hget⟩ := List.getElem?_eq_some_iff.mp hp
  obtain ⟨j, hj⟩ := List.mem_iff_getElem?.mp hq
  by_cases hij : i = j
  · rw [← hij, List.getElem?_set_self hi] at hj
    exact Or.inl (Option.some.inj hj).symm
  · rw [List.getElem?_set_ne hij] at hj
    refine Or.inr ⟨List.mem_of_getElem? hj, fun hsame => hij ?_⟩
    apply (List.getElem?_inj (by simpa using hi) hapart).mp
    rw [List.getElem?_map, List.getElem?_map, hp, hj, Option.map_some, Option.map_some, hsame]

/-- After a save that succeeds the document holds the time at which its entry was inserted: the time
of the save if that has inserted it, and what it held before otherwise. -/
theorem Dated.save_holds (hs : Reachable types d.session) (htimed : d.store.Timed)
    (hp : Dated history d.store d.session.heap p) {i : Nat} {now : Instant} {fresh : ObjectId}
    {took : String} (hfresh : p.id? = none → fresh ∉ inserted history) {saved : Store.Saved}
    (hsaved : d.store.save p now fresh took d.session = saved) (hresult : saved.result = .ok true)
    {now' : Instant} (hat : InsertedAt (saveEvent i p now fresh (.ok true) :: history)
      (p.id?.getD fresh) now') :
    saved.session.heap.HoldsTime p.document d.store.config.createdField now' := by
  rw [insertedAt_save] at hat
  cases hid : p.id? with
  | none =>
      rw [hid, Option.getD_none] at hat
      obtain ⟨_, _, rfl⟩ := hat.resolve_right fun hold => hfresh hid hold.mem
      obtain ⟨c, hc, hschema⟩ := hp.exact
      obtain ⟨c', hc', _, hvalues⟩ := Store.save_dates hs.declared hs.sound hc hsaved hresult
      have htakes : d.store.config.createdField ∈ d.store.timeFields p.isNew := by
        simp [Store.timeFields, Persisted.isNew, hid]
      exact ⟨c', _, hc', hvalues _ htakes (hschema ▸ htimed.created), rfl⟩
  | some id =>
      rw [hid, Option.getD_some] at hat
      have hold := hat.resolve_left fun hnew => by cases hnew.1
      apply (hp.created id now' hid hold).retain
      exact Store.save_retains_created htimed hsaved fun _ => by simp [hid]

theorem Dated.mem_inserted {store : Store} {h : Heap} (hp : Dated history store h p) (i : Nat)
    (now : Instant) (fresh : ObjectId) :
    p.id?.getD fresh ∈ inserted (saveEvent i p now fresh (.ok true) :: history) := by
  cases hid : p.id? with
  | none => simp [inserted, saveEvent, hid]
  | some id =>
      have hold := hp.known id hid
      simpa [inserted, saveEvent, hid] using hold

/-- A save that succeeds writes the time of creation that the document holds. -/
theorem Stamped.write (hs : Reachable types d.session) (htimed : d.store.Timed)
    (hd : Stamped history d) (haccounts : Accounts history d) {i : Nat}
    (hp : d.handles[i]? = some p) {now : Instant}
    (hnow : Instant.inRange now.floorMillis = true) {fresh : ObjectId} {took : String}
    (hfresh : p.id? = none → fresh ∉ inserted history) {saved : Store.Saved}
    (hsaved : d.store.save p now fresh took d.session = saved) (hresult : saved.result = .ok true) :
    Stamped (saveEvent i p now fresh (.ok true) :: history)
      ⟨saved.store, saved.session, d.handles.set i saved.document⟩ := by
  have hdated := hd.dated p (List.mem_of_getElem? hp)
  have hholds : ∀ now', InsertedAt (saveEvent i p now fresh (.ok true) :: history)
      (p.id?.getD fresh) now' →
      saved.session.heap.HoldsTime p.document d.store.config.createdField now' :=
    fun _ hat => hdated.save_holds hs htimed hfresh hsaved hresult hat
  have hmono : inserted history ⊆ inserted (saveEvent i p now fresh (.ok true) :: history) :=
    ((List.sublist_cons_self _ history).filterMap _).subset
  obtain ⟨c, hc, hschema⟩ := hdated.exact
  have hwrites := Store.save_writes hs.declared hs.sound (by rw [hc]; rfl) hnow
    (fun hid => haccounts.find?_of_fresh (hfresh hid)) (hsaved ▸ hresult)
  obtain ⟨c', hc', hsame, _⟩ := Store.save_dates hs.declared hs.sound hc hsaved hresult
  obtain ⟨collection, hstore⟩ := d.store.save_store p now fresh took d.session
  rw [hsaved] at hwrites hstore
  constructor
  · intro q hq
    rw [hwrites.document] at hq
    simp only [hstore]
    rcases mem_set_of_apart hd.apart hp hq with rfl | ⟨hold, hother⟩
    · refine ⟨⟨c', hc', hsame.trans hschema⟩, fun id hid => ?_, fun id now' hid hat => ?_⟩
      · exact Option.some.inj hid ▸ hdated.mem_inserted i now fresh
      · exact hholds now' (Option.some.inj hid ▸ hat)
    · -- another document, which has an identifier that was inserted before if it has any
      have hothers := hd.dated q hold
      have hkept := hothers.retain (Store.save_retains_created htimed hsaved fun heq =>
        absurd heq.symm hother)
      refine ⟨hkept.exact, fun id hid => hmono (hkept.known id hid), fun id now' hid hat => ?_⟩
      rcases insertedAt_save.mp hat with ⟨hnew, rfl, _⟩ | hbefore
      · exact absurd (hothers.known id hid) (hfresh hnew)
      · exact hkept.created id now' hid hbefore
  · have hsame : (d.handles.map (·.document)).set i p.document = d.handles.map (·.document) := by
      obtain ⟨hi, rfl⟩ := List.getElem?_eq_some_iff.mp hp
      rw [← List.map_set, List.set_getElem_self]
    rw [List.map_set, hwrites.document, hsame]
    exact hd.apart
  · intro id now' hat
    rcases insertedAt_save.mp hat with ⟨_, _, rfl⟩ | hbefore
    · exact hnow
    · exact hd.clock id now' hbefore
  · intro id now' data hat hfound
    have hconfig : saved.store.config = d.store.config := by rw [hstore]
    rw [hconfig]
    by_cases hid : id = p.id?.getD fresh
    · subst hid
      exact hwrites.get?_time hfound hc' (hsame.trans hschema ▸ htimed.created) (hholds now' hat)
    · rw [hwrites.written.find?_of_ne hid] at hfound
      apply hd.stored id now' data _ hfound
      apply (insertedAt_save.mp hat).resolve_left
      rintro ⟨hnew, rfl, _⟩
      exact hid (by rw [hnew]; rfl)

/-- A save that does not succeed leaves the times of creation alone. -/
theorem Stamped.save_fails (htimed : d.store.Timed) (hd : Stamped history d) {i : Nat}
    (hp : d.handles[i]? = some p) {now : Instant} {fresh : ObjectId} {took : String}
    {saved : Store.Saved} (hsaved : d.store.save p now fresh took d.session = saved)
    (hfailed : saved.result ≠ .ok true) :
    Stamped history ⟨saved.store, saved.session, d.handles.set i saved.document⟩ := by
  obtain ⟨hstore, hdocument, hretains⟩ := Store.save_fails hsaved hfailed
  have hsame : d.handles.set i p = d.handles := by
    obtain ⟨hi, rfl⟩ := List.getElem?_eq_some_iff.mp hp
    exact List.set_getElem_self hi
  rw [hstore, hdocument, hsame]
  exact hd.onward _ rfl ⟨d.store.collection, rfl⟩ (fun _ _ hfound => hfound)
    fun q _ => hretains q.document _ (Or.inr htimed.distinct)

theorem Stamped.save (hs : Reachable types d.session) (htimed : d.store.Timed)
    (hd : Stamped history d) (haccounts : Accounts history d) {i : Nat}
    (hp : d.handles[i]? = some p) {now : Instant}
    (hnow : Instant.inRange now.floorMillis = true) {fresh : ObjectId} {took : String}
    {saved : Store.Saved} (hsaved : d.store.save p now fresh took d.session = saved)
    (hfresh : (saveEvent i p now fresh saved.result).Fresh history) :
    Stamped (saveEvent i p now fresh saved.result :: history)
      ⟨saved.store, saved.session, d.handles.set i saved.document⟩ := by
  by_cases hresult : saved.result = .ok true
  · rw [hresult] at hfresh ⊢
    apply hd.write hs htimed haccounts hp hnow _ hsaved hresult
    intro hid
    rwa [saveEvent.eq_def, hid] at hfresh
  · rw [saveEvent_of_ne hresult]
    exact (hd.save_fails htimed hp hsaved hresult).quiet (by simp)

/-! ### Runs -/

/-- The action assigns no time field of a wrapped document, saves at a date that there is, and wraps
only what was not wrapped before and is exactly of the type of the store. -/
def Action.Spares (d : Desk) : Action → Prop
  | persist r => (∀ p ∈ d.handles, p.document ≠ r) ∧
      ∃ c, d.session.heap.document? r = some c ∧ c.schema = d.store.schema
  | save _ now _ _ => Instant.inRange now.floorMillis = true
  | other op => ∀ p ∈ d.handles, ∀ name ∈ d.store.timeFields true, ¬ op.Assigns p.document name
  | _ => True

/-- No action changes the type or the settings of the store. -/
theorem perform_timed {a : Action} : (d.perform a).2.store.Timed ↔ d.store.Timed := by
  obtain ⟨collection, hstore⟩ := d.perform_store a
  rw [hstore]
  exact ⟨fun h => ⟨h.distinct, h.created, h.modified⟩, fun h => ⟨h.distinct, h.created, h.modified⟩⟩

/-- A field that an action does not assign holds what it held. -/
theorem perform_retains (hs : Reachable types d.session) (hschema : d.store.schema ∈ types)
    {a : Action} (hover : a.Over types) {r : DocRef} {name : String}
    (hother : ∀ op, a.operation? d = some op → ¬ op.Assigns r name) :
    d.session.heap.Retains r name (d.perform a).2.session.heap := by
  rw [session_perform]
  cases hop : a.operation? d with
  | none => exact .refl d.session.heap r name
  | some op =>
      exact Operation.perform_retains hs.declared hs.sound
        (Action.operation?_over hschema hover hop) (hother op hop)

/-- Of all that is done without assigning a time field, only saves assign a time of creation. -/
theorem Action.Spares.retains (hs : Reachable types d.session) (hschema : d.store.schema ∈ types)
    {a : Action} (hover : a.Over types) (hspares : a.Spares d)
    (hsave : ∀ i now fresh took, a ≠ .save i now fresh took) :
    ∀ p ∈ d.handles, d.session.heap.Retains p.document d.store.config.createdField
      (d.perform a).2.session.heap := by
  intro p hp
  apply perform_retains hs hschema hover
  intro op hop hassigns
  cases a with
  | create | find filter took | findOne id took =>
      obtain rfl := Option.some.inj hop
      exact hassigns
  | persist r => cases hop
  | clone i | delete i took | findById text took =>
      obtain ⟨_, _, rfl⟩ := Option.map_eq_some_iff.mp hop
      exact hassigns
  | save i now fresh took => exact hsave i now fresh took rfl
  | other op =>
      obtain rfl := Option.some.inj hop
      exact hspares p hp _ (by simp [Store.timeFields]) hassigns

theorem create_stamped (hs : Reachable types d.session) (hschema : d.store.schema ∈ types)
    (hd : Stamped history d)
    (hretains : ∀ p ∈ d.handles, d.session.heap.Retains p.document d.store.config.createdField
      (d.perform .create).2.session.heap) :
    Stamped ((d.perform .create).1 :: history) (d.perform .create).2 := by
  have hpost := (Schema.instantiate_runs hs.declared hs.sound.ready _ hschema).2
  rw [perform, Store.newDocument_eq] at hretains ⊢
  generalize d.store.schema.instantiate d.session.heap = made at hretains hpost
  obtain ⟨result, h⟩ := made
  cases result with
  | error e => exact (hd.hold _ [] hretains (by simp) .nil).quiet (by simp)
  | ok r =>
      obtain ⟨hnew, hexact⟩ := hpost r rfl
      refine (hd.hold _ [.ofDocument r] hretains ?_ (List.nodup_singleton r)).quiet (by simp)
      exact List.forall_mem_singleton.mpr ⟨List.getElem?_eq_none hnew, .of_new rfl hexact⟩

theorem clone_stamped (hs : Reachable types d.session) (htimed : d.store.Timed)
    (hd : Stamped history d) (i : Nat)
    (hretains : ∀ p ∈ d.handles, d.session.heap.Retains p.document d.store.config.createdField
      (d.perform (.clone i)).2.session.heap) :
    Stamped ((d.perform (.clone i)).1 :: history) (d.perform (.clone i)).2 := by
  rw [perform] at hretains ⊢
  cases hp : d.handles[i]? with
  | none => exact hd.quiet (by simp)
  | some p =>
      rw [hp] at hretains
      have hdated := hd.dated p (List.mem_of_getElem? hp)
      obtain ⟨c, hc, hschema⟩ := hdated.exact
      obtain ⟨c', hc', hsame, hnew, hvalues⟩ := clone_value hs.declared hs.sound hc
      refine (hd.hold _ [_] hretains ?_ (List.nodup_singleton _)).quiet (by simp)
      refine List.forall_mem_singleton.mpr ⟨hnew, ⟨c', hc', hsame.trans hschema⟩, hdated.known, ?_⟩
      intro id now hid hat
      obtain ⟨c₀, t, hc₀, hvalue, hjson⟩ := hdated.created id now hid hat
      obtain rfl := Option.some.inj (hc.symm.trans hc₀)
      obtain ⟨f, hf, hname, _⟩ := htimed.created
      have hcopied := hvalues f (hschema ▸ hf)
      rw [hname, hvalue] at hcopied
      exact ⟨c', t, hc', hcopied (by simp), hjson⟩

theorem deleteEvent_ne_inserted (result : Except StoreError Bool) (p : Persisted) (handle : Nat)
    (id : ObjectId) (now : Instant) : deleteEvent p result ≠ .inserted handle id now := by
  rw [deleteEvent.eq_def]
  split
  · split <;> simp
  · simp

theorem delete_stamped (hd : Stamped history d) (i : Nat) (took : String)
    (hretains : ∀ p ∈ d.handles, d.session.heap.Retains p.document d.store.config.createdField
      (d.perform (.delete i took)).2.session.heap) :
    Stamped ((d.perform (.delete i took)).1 :: history) (d.perform (.delete i took)).2 := by
  have hstore := d.perform_store (.delete i took)
  rw [perform] at hstore hretains ⊢
  cases hp : d.handles[i]? with
  | none => exact hd.quiet (by simp)
  | some p =>
      rw [hp] at hstore hretains
      let deleted := d.store.delete p took d.session
      apply (hd.onward ⟨deleted.2.1, deleted.2.2, d.handles⟩ rfl hstore _ hretains).quiet
      · exact deleteEvent_ne_inserted deleted.1 p
      · exact fun id data hfound => Store.find?_of_delete hfound

theorem lookUp_stamped (hs : Reachable types d.session) (hschema : d.store.schema ∈ types)
    (htimed : d.store.Timed) (hd : Stamped history d) (haccounts : Accounts history d)
    (id : ObjectId) (took : String) (hretains : ∀ p ∈ d.handles, d.session.heap.Retains p.document
      d.store.config.createdField (d.lookUp id took).2.session.heap) :
    Stamped ((d.lookUp id took).1 :: history) (d.lookUp id took).2 := by
  rw [lookUp] at hretains ⊢
  cases hfound : d.store.findOne id took d.session with
  | mk result s =>
      rw [hfound] at hretains
      rcases result with e | _ | p
      · exact (hd.hold s [] hretains (by simp) .nil).quiet (by simp)
      · exact (hd.hold s [] hretains (by simp) .nil).quiet (by simp)
      · obtain ⟨data, hdata, hp⟩ := Store.findOne_loads hs.declared hschema hs.sound hfound
        refine (hd.hold s [p] hretains ?_ (List.nodup_singleton _)).quiet (by simp)
        exact List.forall_mem_singleton.mpr
          ⟨hp.new, hd.dated_of_loads haccounts htimed hdata hp⟩

theorem find_stamped (hs : Reachable types d.session) (hschema : d.store.schema ∈ types)
    (htimed : d.store.Timed) (hd : Stamped history d) (haccounts : Accounts history d)
    (filter : Json.Object) (took : String)
    (hretains : ∀ p ∈ d.handles, d.session.heap.Retains p.document
      d.store.config.createdField (d.perform (.find filter took)).2.session.heap) :
    Stamped ((d.perform (.find filter took)).1 :: history) (d.perform (.find filter took)).2 := by
  rw [perform] at hretains ⊢
  cases hfound : d.store.find filter took d.session with
  | mk result s =>
      rw [hfound] at hretains
      cases result with
      | error e => exact (hd.hold s [] hretains (by simp) .nil).quiet (by simp)
      | ok ps =>
          obtain ⟨hapart, hloads⟩ := Store.find_loads hs.declared hschema hs.sound hfound
          refine (hd.hold s ps hretains (fun p hp => ?_) hapart).quiet (by simp)
          obtain ⟨e, he, hp⟩ := hloads p hp
          have hids := (List.nodup_append.mp haccounts.ids_nodup).1
          have hentry :=
            (Collection.find?_eq_some_iff hids).mpr (List.mem_of_mem_filter he)
          exact ⟨hp.new, hd.dated_of_loads haccounts htimed hentry hp⟩

/-- Every action leaves the times of creation in order. -/
theorem perform_stamped (hs : Reachable types d.session) (hschema : d.store.schema ∈ types)
    (htimed : d.store.Timed) (hd : Stamped history d) (haccounts : Accounts history d) {a : Action}
    (hover : a.Over types) (hspares : a.Spares d) (hfresh : (d.perform a).1.Fresh history) :
    Stamped ((d.perform a).1 :: history) (d.perform a).2 := by
  have hretains := hspares.retains hs hschema hover
  cases a with
  | create => exact create_stamped hs hschema hd (hretains (by simp))
  | persist r =>
      obtain ⟨hothers, hexact⟩ := hspares
      refine (hd.extend (d.hold d.session [.ofDocument r]) [.ofDocument r] rfl
        ⟨d.store.collection, rfl⟩ (fun _ _ hfound => hfound) (fun p _ => .refl _ _ _) ?_
        (List.nodup_singleton r) ?_).quiet (by simp [perform])
      · exact List.forall_mem_singleton.mpr (.of_new rfl hexact)
      · exact List.forall_mem_singleton.mpr hothers
  | clone i => exact clone_stamped hs htimed hd i (hretains (by simp))
  | save i now fresh took =>
      rw [perform] at hfresh ⊢
      cases hp : d.handles[i]? with
      | none => exact hd.quiet (by simp)
      | some p =>
          rw [hp] at hfresh
          exact hd.save hs htimed haccounts hp hspares rfl hfresh
  | delete i took => exact delete_stamped hd i took (hretains (by simp))
  | find filter took =>
      exact find_stamped hs hschema htimed hd haccounts filter took (hretains (by simp))
  | findOne id took =>
      exact lookUp_stamped hs hschema htimed hd haccounts id took (hretains (by simp))
  | findById text took =>
      have hretains := hretains (by simp)
      rw [perform] at hretains ⊢
      cases hid : ObjectId.parse? text with
      | none => exact hd.quiet (by simp)
      | some id =>
          rw [hid] at hretains
          exact lookUp_stamped hs hschema htimed hd haccounts id took hretains
  | other op => exact (hd.hold _ [] (hretains (by simp)) (by simp) .nil).quiet (by simp [perform])

/-- Runs of a store whose actions all leave the time fields of wrapped documents to the saves. -/
inductive TimedRun : List Schema → List Event → Desk → Prop
  | start {types : List Schema} {s : Session} {schema : Schema} {name : String}
      {config : StoreConfig} {store : Store} (hs : Reachable types s) (hschema : schema ∈ types)
      (hstore : Store.create? schema name config = .ok store) : TimedRun types [] ⟨store, s, []⟩
  | declare {types : List Schema} {history : List Event} {d : Desk} {new : Schema}
      (hrun : TimedRun types history d) (hnew : Declared (new :: types))
      (hwithin : new.Within d.session.heap) : TimedRun (new :: types) history d
  | act {types : List Schema} {history : List Event} {d : Desk} (a : Action)
      (hrun : TimedRun types history d) (hover : a.Over types)
      (hfresh : (d.perform a).1.Fresh history) (hspares : a.Spares d) :
      TimedRun types ((d.perform a).1 :: history) (d.perform a).2

/-- The history goes on with the event that an action is known to come to. -/
theorem TimedRun.goOn (hrun : TimedRun types history d) (a : Action) (event : Event)
    (hover : a.Over types) (hevent : (d.perform a).1 = event) (hfresh : event.Fresh history)
    (hspares : a.Spares d) : TimedRun types (event :: history) (d.perform a).2 := by
  subst hevent
  exact hrun.act a hover hfresh hspares

theorem TimedRun.run (hrun : TimedRun types history d) : Run types history d := by
  induction hrun with
  | start hs hschema hstore => exact .start hs hschema hstore
  | declare _ hnew hwithin ih => exact ih.declare hnew hwithin
  | act a _ hover hfresh _ ih => exact ih.act a hover hfresh

/-- In the course of a run, the times of creation are in order. -/
theorem TimedRun.stamped (hrun : TimedRun types history d) (htimed : d.store.Timed) :
    Stamped history d := by
  induction hrun with
  | start _ _ _ =>
      have hnever : ∀ {id now}, ¬ InsertedAt [] id now := fun ⟨_, hmem⟩ => List.not_mem_nil hmem
      exact ⟨by simp, .nil, fun _ _ hat => absurd hat hnever, fun _ _ _ hat => absurd hat hnever⟩
  | declare _ _ _ ih => exact ih htimed
  | @act _ _ d a hbefore hover hfresh hspares ih =>
      have htimed := perform_timed.mp htimed
      obtain ⟨hs, hschema⟩ := hbefore.run.reachable
      exact perform_stamped hs hschema htimed (ih htimed) hbefore.run.accounts hover hspares hfresh

/-- In the course of a run, what is stored as the time of creation of an entry is the time of the
save that inserted it, whoever has saved it since.  A save that returns true leaves its own time in
the document and in the entry as the time of modification, and as the time of creation too if it
inserts.  A save that returns false changes neither. -/
theorem timestamps (hrun : TimedRun types history d) (htimed : d.store.Timed) :
    (∀ id now data, InsertedAt history id now → d.store.collection.find? id = some data →
      data.get? d.store.config.createdField = some now.toJson) ∧
    ∀ p ∈ d.handles, ∀ now fresh took saved, Instant.inRange now.floorMillis = true →
      (p.id? = none → fresh ∉ inserted history) → d.store.save p now fresh took d.session = saved →
      (saved.result = .ok true →
        (∃ c, saved.session.heap.document? p.document = some c ∧
          c.value d.store.config.modifiedField = .instant now ∧
          (p.id? = none → c.value d.store.config.createdField = .instant now)) ∧
        ∃ data, saved.store.collection.find? (p.id?.getD fresh) = some data ∧
          data.get? d.store.config.modifiedField = some now.toJson ∧
          (p.id? = none → data.get? d.store.config.createdField = some now.toJson)) ∧
      (saved.result = .ok false → ∀ name ∈ d.store.timeFields true,
        d.session.heap.Retains p.document name saved.session.heap) := by
  have hs := hrun.run.reachable.1
  have hd := hrun.stamped htimed
  refine ⟨hd.stored, fun p hp now fresh took saved hnow hfresh hsaved => ⟨fun hresult => ?_,
    fun hresult name _ => ?_⟩⟩
  · obtain ⟨c, hc, hschema⟩ := (hd.dated p hp).exact
    have hwrites := Store.save_writes hs.declared hs.sound (by rw [hc]; rfl) hnow
      (fun hid => hrun.run.accounts.find?_of_fresh (hfresh hid)) (hsaved ▸ hresult)
    rw [hsaved] at hwrites
    obtain ⟨data, hdata, _⟩ := hwrites.written.found
    obtain ⟨c', hc', hsame, hvalues⟩ := Store.save_dates hs.declared hs.sound hc hsaved hresult
    have htime : ∀ name ∈ d.store.timeFields p.isNew, d.store.schema.HasDate name →
        c'.value name = .instant now ∧ data.get? name = some now.toJson := by
      intro name htakes hname
      rw [← hschema] at hname
      have hvalue := hvalues name htakes hname
      exact ⟨hvalue, hwrites.get?_time hdata hc' (hsame ▸ hname) ⟨c', now, hc', hvalue, rfl⟩⟩
    obtain ⟨hmodified, hmodifiedJson⟩ := htime _ List.mem_cons_self htimed.modified
    have hcreated : p.id? = none → c'.value d.store.config.createdField = .instant now ∧
        data.get? d.store.config.createdField = some now.toJson := by
      intro hid
      exact htime _ (by simp [Store.timeFields, Persisted.isNew, hid]) htimed.created
    exact ⟨⟨c', hc', hmodified, fun hid => (hcreated hid).1⟩, data, hdata, hmodifiedJson,
      fun hid => (hcreated hid).2⟩
  · exact (Store.save_fails hsaved (by rw [hresult]; simp)).2.2 p.document name (Or.inl hresult)

/-! An entry of a diary is saved, cloned and loaded, and the clone is saved at a later time. -/

def diaryFields : List Field :=
  [⟨"text", true, none, .string ⟨.free, none, none⟩⟩, ⟨"created_at", false, none, .dateTime⟩,
    ⟨"updated_at", false, none, .dateTime⟩]

def diaryType : Schema :=
  .document 0 "Diary" diaryFields

def emptyDiary : Desk :=
  ⟨⟨diaryType, "diary", .empty, ⟨"created_at", "updated_at", true⟩⟩, .empty, []⟩

def firstTime : Instant :=
  ⟨1700000000, 123456789⟩

def secondTime : Instant :=
  ⟨1700000060, 987654321⟩

def diaryActions : List Action :=
  [.create, .other (.set ⟨0⟩ "text" (.text "rain")), .save 0 firstTime (.ofNat 7) "0", .clone 0,
    .findOne (.ofNat 7) "0", .save 1 secondTime (.ofNat 8) "0"]

def diaryDesk : Desk :=
  diaryActions.foldl (fun d a => (d.perform a).2) emptyDiary

def diaryHistory : List Event :=
  [.updated 1 (.ofNat 7) secondTime, .found 2 [.ofNat 7], .cloned 0 1,
    .inserted 0 (.ofNat 7) firstTime, .nothing, .wrapped]

theorem diaryRun : TimedRun [diaryType] diaryHistory diaryDesk := by
  have hempty : TimedRun [diaryType] [] emptyDiary :=
    .start (.of_plain (by simp [diaryFields, Kind.schema?])) List.mem_cons_self rfl
  have hcreated := hempty.goOn .create .wrapped trivial rfl trivial trivial
  have hspares : Action.Spares (emptyDiary.perform .create).2
      (.other (.set ⟨0⟩ "text" (.text "rain"))) := by
    have hnames : (emptyDiary.perform .create).2.store.timeFields true =
        ["updated_at", "created_at"] := rfl
    rintro p _ name hname ⟨_, rfl⟩
    rw [hnames] at hname
    simp at hname
  have hfirst : Instant.inRange firstTime.floorMillis = true := by decide
  have hsecond : Instant.inRange secondTime.floorMillis = true := by decide
  have hset := hcreated.goOn (.other (.set ⟨0⟩ "text" (.text "rain"))) .nothing (.text _) rfl
    trivial hspares
  have hsaved := hset.goOn (.save 0 firstTime (.ofNat 7) "0") (.inserted 0 (.ofNat 7) firstTime)
    trivial (by decide +kernel) List.not_mem_nil hfirst
  have hcloned := hsaved.goOn (.clone 0) (.cloned 0 1) trivial (by decide +kernel) trivial trivial
  have hfound := hcloned.goOn (.findOne (.ofNat 7) "0") (.found 2 [.ofNat 7]) trivial
    (by decide +kernel) trivial trivial
  exact hfound.goOn (.save 1 secondTime (.ofNat 8) "0") (.updated 1 (.ofNat 7) secondTime) trivial
    (by decide +kernel) trivial hsecond

theorem diaryDesk_timed : diaryDesk.store.Timed := by
  have hcreated : ⟨"created_at", false, none, .dateTime⟩ ∈ diaryFields := by simp [diaryFields]
  have hmodified : ⟨"updated_at", false, none, .dateTime⟩ ∈ diaryFields := by simp [diaryFields]
  have hempty : emptyDiary.store.Timed :=
    ⟨by decide +kernel, ⟨_, hcreated, rfl, rfl⟩, ⟨_, hmodified, rfl, rfl⟩⟩
  simpa only [diaryDesk, diaryActions, List.foldl_cons, List.foldl_nil, perform_timed] using hempty

def thirdTime : Instant :=
  ⟨1700000120, 0⟩

def savedDiary : Store.Saved :=
  diaryDesk.store.save ⟨⟨2⟩, some (.ofNat 7)⟩ thirdTime (.ofNat 9) "0" diaryDesk.session

/-- The entry keeps the first time.  The document that was loaded is saved at a third time, which
goes into the entry as the time of modification. -/
theorem timestamps_diary :
    (∃ data, diaryDesk.store.collection.find? (.ofNat 7) = some data ∧
      data.get? "created_at" = some firstTime.toJson) ∧
    savedDiary.result = .ok true ∧
    ∃ data, savedDiary.store.collection.find? (.ofNat 7) = some data ∧
      data.get? "updated_at" = some thirdTime.toJson := by
  obtain ⟨hstored, hsaves⟩ := timestamps diaryRun diaryDesk_timed
  have hinserted : InsertedAt diaryHistory (.ofNat 7) firstTime := ⟨0, by simp [diaryHistory]⟩
  have hthere : (diaryDesk.store.collection.find? (.ofNat 7)).isSome = true := by decide +kernel
  obtain ⟨data, hdata⟩ := Option.isSome_iff_exists.mp hthere
  have hloaded : ⟨⟨2⟩, some (.ofNat 7)⟩ ∈ diaryDesk.handles := by decide +kernel
  have hresult : savedDiary.result = .ok true := by decide +kernel
  have hthird : Instant.inRange thirdTime.floorMillis = true := by decide
  obtain ⟨hsaved, _⟩ := hsaves _ hloaded thirdTime (.ofNat 9) "0" savedDiary hthird (by simp) rfl
  obtain ⟨_, third, hfound, hmodified, _⟩ := hsaved hresult
  have hcreated := hstored _ _ data hinserted hdata
  have hconfig : diaryDesk.store.config.createdField = "created_at" ∧
      diaryDesk.store.config.modifiedField = "updated_at" := by decide +kernel
  rw [hconfig.1] at hcreated
  rw [hconfig.2] at hmodified
  exact ⟨⟨data, hdata, hcreated⟩, hresult, third, hfound, hmodified⟩

end Desk

end DocumentModel
