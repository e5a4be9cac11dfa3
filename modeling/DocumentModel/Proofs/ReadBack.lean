/-
Reading what was saved.

A save puts the data of a document under its identifier and leaves every other entry alone.
Members that an earlier save left there stay, but those of the document are new, so the document
that is made of the entry has the data that was saved.
-/
import DocumentModel.Proofs.RoundTrip
import DocumentModel.Proofs.Stamping

namespace DocumentModel

namespace Json.Object

theorem get?_merge_of_not_mem {key : String} {changes : Object}
    (hkey : key ∉ changes.map Prod.fst) (data : Object) :
    (data.merge changes).get? key = data.get? key := by
  induction changes generalizing data with
  | nil => rfl
  | cons first rest ih =>
      rw [List.map_cons, List.mem_cons, not_or] at hkey
      rw [merge, List.foldl_cons]
      exact (ih hkey.2 _).trans (get?_put_of_ne data first.2 hkey.1)

/-- After a merge the changes are there. -/
theorem get?_merge_of_mem {changes : Object} (hkeys : (changes.map Prod.fst).Nodup)
    {m : String × Json} (hm : m ∈ changes) (data : Object) :
    (data.merge changes).get? m.1 = some m.2 := by
  induction changes generalizing data with
  | nil => cases hm
  | cons first rest ih =>
      obtain ⟨hnew, hrest⟩ := List.nodup_cons.mp hkeys
      rw [merge, List.foldl_cons]
      rcases List.mem_cons.mp hm with rfl | hm
      · exact (get?_merge_of_not_mem hnew _).trans (get?_put_self data m.1 m.2)
      · exact ih hrest hm _

end Json.Object

namespace Collection

/-- The members of some data are under an identifier, and all else is as it was: a new identifier
comes last, a known one keeps its place. -/
structure Written (c : Collection) (id : ObjectId) (data : Json.Object) (isNew : Bool)
    (later : Collection) : Prop where
  found : ∃ stored, later.find? id = some stored ∧ ∀ m ∈ data, stored.get? m.1 = some m.2
  others : later.entries.filter (fun e => e.1 ≠ id) = c.entries.filter fun e => e.1 ≠ id
  order : later.entries.map Prod.fst = c.entries.map Prod.fst ++ if isNew then [id] else []

theorem insert_written {c : Collection} {id : ObjectId} (hnew : c.find? id = none)
    {data : Json.Object} (hkeys : (data.map Prod.fst).Nodup) :
    c.Written id data true (c.insert id data) where
  found := ⟨data, c.find?_insert_self data hnew, fun m hm => Json.lookup_of_mem hkeys hm⟩
  others := by simp [insert, List.filter_append]
  order := by simp [insert]

theorem lookup_updateEntries {id : ObjectId} {changes data : Json.Object}
    {entries : List (ObjectId × Json.Object)} (hdata : entries.lookup id = some data) :
    (updateEntries id changes entries).lookup id = some (data.merge changes) := by
  induction entries with
  | nil => cases hdata
  | cons first rest ih =>
      obtain ⟨i, old⟩ := first
      by_cases hi : i = id
      · subst hi
        obtain rfl : old = data := by simpa using hdata
        simp [updateEntries]
      · have hkey : (id == i) = false := by simpa using Ne.symm hi
        rw [List.lookup_cons, hkey] at hdata
        rw [updateEntries, if_neg hi, List.lookup_cons, hkey]
        exact ih hdata

theorem filter_updateEntries (id : ObjectId) (changes : Json.Object)
    (entries : List (ObjectId × Json.Object)) :
    (updateEntries id changes entries).filter (fun e => e.1 ≠ id) =
      entries.filter fun e => e.1 ≠ id := by
  induction entries with
  | nil => rfl
  | cons first rest ih =>
      obtain ⟨i, old⟩ := first
      by_cases hi : i = id
      · simp [updateEntries, hi]
      · rw [updateEntries, if_neg hi, List.filter_cons, List.filter_cons, ih]

theorem map_fst_updateEntries (id : ObjectId) (changes : Json.Object)
    (entries : List (ObjectId × Json.Object)) :
    (updateEntries id changes entries).map Prod.fst = entries.map Prod.fst := by
  induction entries with
  | nil => rfl
  | cons first rest ih =>
      obtain ⟨i, old⟩ := first
      by_cases hi : i = id
      · simp [updateEntries, hi]
      · rw [updateEntries, if_neg hi, List.map_cons, List.map_cons, ih]

theorem update_written {c : Collection} {id : ObjectId} (hold : (c.find? id).isSome = true)
    {data : Json.Object} (hkeys : (data.map Prod.fst).Nodup) :
    c.Written id data false (c.update id data).2 where
  found := by
    obtain ⟨old, hfound⟩ := Option.isSome_iff_exists.mp hold
    exact ⟨old.merge data, lookup_updateEntries hfound,
      fun m hm => Json.Object.get?_merge_of_mem hkeys hm old⟩
  others := filter_updateEntries id data c.entries
  order := by simp [update, map_fst_updateEntries]

end Collection

namespace Store

open Heap

variable {types : List Schema}

/-- What a save that writes comes to. -/
structure Writes (store : Store) (p : Persisted) (fresh : ObjectId) (s : Session)
    (saved : Saved) : Prop where
  document : saved.document = ⟨p.document, some (p.id?.getD fresh)⟩
  schema : saved.store.schema = store.schema
  restamped : s.heap.Restamped saved.session.heap
  written : store.collection.Written (p.id?.getD fresh) (saved.session.heap.data p.document)
    p.isNew saved.store.collection

theorem write_writes (hdecl : Declared types) {s : Session} (hsound : s.heap.Sound types)
    {store : Store} {p : Persisted} (hsome : (s.heap.document? p.document).isSome = true)
    {now : Instant} (hnow : Instant.inRange now.floorMillis = true) {fresh : ObjectId}
    (hfresh : p.id? = none → store.collection.find? fresh = none) {took : String}
    (hresult : (store.write p now fresh took s).result = .ok true) :
    store.Writes p fresh s (store.write p now fresh took s) := by
  have hmodified := stamp_restamped hdecl hsound p.document store.config.modifiedField hnow
  have hchanges := stamp_changes hdecl hsound p.document store.config.modifiedField now
  have hsound' := hchanges.sound hdecl hsound
  have hcreated := stamp_restamped hdecl hsound' p.document store.config.createdField hnow
  have hchanges' := stamp_changes hdecl hsound' p.document store.config.createdField now
  have hkeys : ∀ {h : Heap}, s.heap.Grows h → h.Sound types →
      ((h.data p.document).map Prod.fst).Nodup := by
    intro h hgrows hsound
    obtain ⟨d, hd⟩ := Option.isSome_iff_exists.mp hsome
    obtain ⟨d', hd', _⟩ := hgrows.document hd
    rw [map_fst_data hd']
    exact hdecl.fieldNames_nodup (hsound.schema hd')
  obtain ⟨document, id?⟩ := p
  cases id? with
  | some id =>
      cases hfound : (store.collection.find? id).isSome with
      | false => simp [write, Collection.update, hfound] at hresult
      | true =>
          have hdata := hkeys hchanges.grows hsound'
          have hwritten := Collection.update_written hfound hdata
          simp only [write, Collection.update, hfound]
          exact ⟨rfl, rfl, by rwa [heap_log], by rwa [heap_log]⟩
  | none =>
      have hdata := hkeys (hchanges.grows.trans hchanges'.grows) (hchanges'.sound hdecl hsound')
      have hwritten := Collection.insert_written (hfresh rfl) hdata
      simp only [write]
      exact ⟨rfl, rfl, by rw [heap_log]; exact hmodified.trans hcreated, by rwa [heap_log]⟩

/-- A save that succeeds stamps the document, and its data is in the collection. -/
theorem save_writes (hdecl : Declared types) {s : Session} (hsound : s.heap.Sound types)
    {store : Store} {p : Persisted} (hsome : (s.heap.document? p.document).isSome = true)
    {now : Instant} (hnow : Instant.inRange now.floorMillis = true) {fresh : ObjectId}
    (hfresh : p.id? = none → store.collection.find? fresh = none) {took : String}
    (hresult : (store.save p now fresh took s).result = .ok true) :
    store.Writes p fresh s (store.save p now fresh took s) := by
  have hmarked := s.validate_marked p.document
  rw [save] at hresult ⊢
  split at hresult
  · cases hresult
  · split at hresult
    · next valid hvalid =>
        rw [hvalid] at hmarked
        have hchanges := hmarked.changes types
        obtain ⟨d, hd⟩ := Option.isSome_iff_exists.mp hsome
        obtain ⟨e, he⟩ := hmarked.document? hd
        have hwrites := write_writes hdecl (hchanges.sound hdecl hsound) (by rw [he]; rfl) hnow
          hfresh hresult
        exact { hwrites with restamped := hmarked.restamped.trans hwrites.restamped }
    · cases hresult

end Store

open Heap

/-- What a save has written is found under the identifier of the document, with the data that the
document has then.  Entries under other identifiers stay what and where they were, and only a new
document adds one.  The clock shows a date that there is, and a generated identifier is new. -/
theorem read_after_save {types : List Schema} {s : Session} (hs : Reachable types s) {store : Store}
    {p : Persisted} {d : Document} (hd : s.heap.document? p.document = some d)
    (hschema : d.schema = store.schema) (hr : s.heap.Restorable p.document)
    (hmakes : ∀ t, d.schema.Nests t → ∃ made, (t.instantiate s.heap).1 = .ok made)
    {now : Instant} (hnow : Instant.inRange now.floorMillis = true) {fresh : ObjectId}
    (hfresh : p.id? = none → store.collection.find? fresh = none) {took : String}
    {saved : Store.Saved} (hsaved : store.save p now fresh took s = saved)
    (hresult : saved.result = .ok true) :
    ∃ id, saved.document = ⟨p.document, some id⟩ ∧ id = p.id?.getD fresh ∧
      (∀ took' : String, ∃ found later,
        saved.store.findOne id took' saved.session = (.ok (some ⟨found, some id⟩), later) ∧
        (Json.obj (later.heap.data found)).same (.obj (saved.session.heap.data p.document)) =
          true) ∧
      saved.store.collection.entries.filter (fun e => e.1 ≠ id) =
        store.collection.entries.filter (fun e => e.1 ≠ id) ∧
      saved.store.collection.entries.map Prod.fst =
        store.collection.entries.map Prod.fst ++ (if p.isNew then [id] else []) ∧
      saved.store.collection.size = store.collection.size + if p.isNew then 1 else 0 := by
  subst hsaved
  have hdecl := hs.declared
  have hwrites := Store.save_writes hdecl hs.sound (by rw [hd]; rfl) hnow hfresh hresult
  have hchanges := store.save_changes hdecl hs.sound p now fresh took
  generalize store.save p now fresh took s = saved at hwrites hchanges
  obtain ⟨hdocument, hstore, hrestamped, ⟨stored, hfound, hmembers⟩, hothers, horder⟩ := hwrites
  refine ⟨p.id?.getD fresh, hdocument, rfl, fun took' => ?_, hothers, horder, ?_⟩
  · obtain ⟨d', hd', heq⟩ := hchanges.grows.document hd
    have hconstructs : ∀ t, d'.schema.Nests t → t.Constructs types saved.session.heap := by
      intro t ht
      rw [heq] at ht
      obtain ⟨made, hmade⟩ := hmakes t ht
      exact (hs.constructs (hdecl.mem_of_nests (hs.sound.schema hd) ht) hmade).mono hchanges.grows
    have hnames := map_fst_data hd'
    have hkeys : ((saved.session.heap.data p.document).map Prod.fst).Nodup := by
      rw [hnames, heq]
      exact hdecl.fieldNames_nodup (hs.sound.schema hd)
    have hget : ∀ f ∈ d'.schema.fields, stored.get? f.name =
        Json.Object.get? (saved.session.heap.data p.document) f.name := by
      intro f hf
      have hname : f.name ∈ (saved.session.heap.data p.document).map Prod.fst := by
        rw [hnames]
        exact List.mem_map_of_mem hf
      obtain ⟨m, hm, hmname⟩ := List.mem_map.mp hname
      rw [← hmname, hmembers m hm]
      exact (Json.lookup_of_mem hkeys hm).symm
    obtain ⟨found, later, hrun, hsame, _⟩ := (hrestamped.restorable hr).hydrate hdecl
      (hchanges.sound hdecl hs.sound) hd' hconstructs hget
    rw [heq, hschema, ← hstore] at hrun
    have hfind : (saved.store.findOne (p.id?.getD fresh) took' saved.session).1 =
          .ok (some ⟨found, some (p.id?.getD fresh)⟩) ∧
        (saved.store.findOne (p.id?.getD fresh) took' saved.session).2.heap = later := by
      simp only [Store.findOne, hfound, Store.hydrate, Store.heap_log, hrun, and_self]
    refine ⟨found, _, Prod.ext hfind.1 rfl, ?_⟩
    rw [hfind.2]
    exact hsame
  · have hsize := congrArg List.length horder
    rw [List.length_append, List.length_map, List.length_map] at hsize
    rw [Collection.size, Collection.size, hsize]
    split <;> rfl

/-! The person is saved over an older entry, between two others. -/

def personId (digit : Fin 16) : ObjectId :=
  ⟨Vector.replicate 24 digit⟩

def peopleStore : Store :=
  ⟨personType, "people",
    ⟨[(personId 0, [("name", .str "Bob")]), (personId 1, [("nick", .str "A"), ("name", .null)]),
      (personId 2, [])]⟩, ⟨"created_at", "seen", true⟩⟩

def savedPerson : Store.Saved :=
  peopleStore.save ⟨⟨1⟩, some (personId 1)⟩ ⟨1700000000, 123456789⟩ (personId 3) "0" personRun

/-- The person is read back, and the entries are those that were there. -/
theorem read_after_save_person :
    (∃ found later, savedPerson.store.findOne (personId 1) "0" savedPerson.session =
        (.ok (some ⟨found, some (personId 1)⟩), later) ∧
      (Json.obj (later.heap.data found)).same (.obj (savedPerson.session.heap.data ⟨1⟩)) = true) ∧
    savedPerson.store.collection.entries.map Prod.fst = [personId 0, personId 1, personId 2] := by
  obtain ⟨d, hd, hschema⟩ :
      ∃ d, personRun.heap.document? ⟨1⟩ = some d ∧ d.schema = peopleStore.schema := ⟨_, rfl, rfl⟩
  have hmakes : ∀ t, d.schema.Nests t → ∃ made, (t.instantiate personRun.heap).1 = .ok made := by
    intro t ht
    rw [hschema] at ht
    exact person_makes ht
  have hnow : Instant.inRange (Instant.mk 1700000000 123456789).floorMillis = true := by decide
  have hsaved : peopleStore.save ⟨⟨1⟩, some (personId 1)⟩ ⟨1700000000, 123456789⟩ (personId 3) "0"
      personRun = savedPerson := rfl
  have hresult : savedPerson.result = .ok true := rfl
  obtain ⟨id, _, hid, hfound, _, horder, _⟩ :=
    read_after_save personRun_reachable (p := ⟨⟨1⟩, some (personId 1)⟩) hd hschema
      person_restorable hmakes hnow (fun hnew => by cases hnew) hsaved hresult
  obtain rfl : id = personId 1 := hid
  exact ⟨hfound "0", horder⟩

end DocumentModel
