/-
Loading a document and saving it back.

The document that is made of an entry mirrors the members that belong to fields of the store's type.
An update puts its data over the entry, so these members are written again as they were, except for
the time of the save, and all others stay.
-/
import DocumentModel.Proofs.ReadBack
import DocumentModel.Proofs.SaveTimes

namespace DocumentModel

/-- Two objects have the same members, apart from one key. -/
def Json.Object.SameExcept (key : String) (a b : Json.Object) : Prop :=
  ∀ k ≠ key, Option.Rel (fun j j' => j = j' ∨ j.same j' = true) (a.get? k) (b.get? k)

theorem Json.Object.get?_eq_of_members {data stored : Json.Object}
    (hkeys : (data.map Prod.fst).Nodup) (hmembers : ∀ m ∈ data, stored.get? m.1 = some m.2)
    {key : String} (hkey : key ∈ data.map Prod.fst) : stored.get? key = data.get? key := by
  obtain ⟨m, hm, rfl⟩ := List.mem_map.mp hkey
  rw [hmembers m hm]
  exact (Json.lookup_of_mem hkeys hm).symm

/-- Members that are the same as before change nothing. -/
theorem Json.Object.sameExcept_merge {key : String} {changes before : Json.Object}
    (hkeys : (changes.map Prod.fst).Nodup)
    (hsame : ∀ m ∈ changes, m.1 ≠ key → ∃ j, before.get? m.1 = some j ∧ m.2.same j = true) :
    (before.merge changes).SameExcept key before := by
  intro k hk
  by_cases hmem : k ∈ changes.map Prod.fst
  · obtain ⟨m, hm, rfl⟩ := List.mem_map.mp hmem
    obtain ⟨j, hj, hmj⟩ := hsame m hm hk
    rw [get?_merge_of_mem hkeys hm, hj]
    exact .some (Or.inr hmj)
  · rw [get?_merge_of_not_mem hmem]
    cases before.get? k with
    | none => exact .none
    | some j => exact .some (Or.inl rfl)

namespace Heap

variable {h later : Heap} {m : Nat} {r : DocRef} {d : Document}

/-- A member of the data of a document is the same as what its field mirrors. -/
theorem exists_field_of_mem_data (hd : h.document? r = some d) {member : String × Json}
    (hmember : member ∈ h.data r) : ∃ f ∈ d.schema.fields, f.name = member.1 ∧
      ∀ j, h.Mirrors m (r.index + 1) (d.value f.name) j → member.2.same j = true := by
  obtain ⟨depth, hlength, hdata⟩ := exists_data_eq hd
  rw [hdata, dataAt_succ hd] at hmember
  obtain ⟨f, hf, rfl⟩ := List.mem_map.mp hmember
  exact ⟨f, hf, rfl, fun j hv => hv.same (by omega)⟩

/-- Validation and the time of a save leave the other fields of a document as they are. -/
theorem Marked.stamp_mirrors (hmarked : Marked h later) (hd : h.document? r = some d)
    (name : String) (now : Instant) :
    ∃ d', (Store.stamp later r name now).document? r = some d' ∧ d'.schema = d.schema ∧
      ∀ f : Field, f.name ≠ name → ∀ j, h.Mirrors m (r.index + 1) (d.value f.name) j →
        (Store.stamp later r name now).Mirrors m (r.index + 1) (d'.value f.name) j := by
  obtain ⟨e, he⟩ := hmarked.document? hd
  refine ⟨_, document?_stamp he name now, Document.schema_timed now _ name, ?_⟩
  intro f hne j hv
  rw [Document.value_timed_of_ne now _ hne]
  refine hv.of_values (fun s ds hs hds => ?_) fun l c _ hl => ?_
  · obtain ⟨e', he'⟩ := hmarked.document? hds
    have hother : r ≠ s := fun heq => by simp [heq] at hs
    refine ⟨{ ds with errors := e' }, ?_, rfl, fun _ _ => rfl⟩
    rw [stamp_eq he, document?_putDocument_of_ne later _ hother, he']
  · rw [list?, lists_stamp he, hmarked.lists]
    exact hl

end Heap

namespace Store

open Heap

variable {types : List Schema}

/-- A write that succeeds for a known identifier puts the data over what is there. -/
theorem write_known {store : Store} {r : DocRef} {id : ObjectId} {now : Instant}
    {fresh : ObjectId} {took : String} {s : Session} {before : Json.Object}
    (hfound : store.collection.find? id = some before) :
    (store.write ⟨r, some id⟩ now fresh took s).store.collection.find? id =
      some (before.merge ((stamp s.heap r store.config.modifiedField now).data r)) := by
  simp only [write, Collection.update, hfound, Option.isSome_some]
  exact Collection.lookup_updateEntries hfound

/-- A document that was just made of an entry is saved over it: what belongs to a field is the same
as before, the time of the save apart, and what does not stays. -/
theorem save_loaded (hdecl : Declared types) {s : Session} (hsound : s.heap.Sound types)
    {store : Store} (hstore : store.schema ∈ types) {id : ObjectId} {before : Json.Object}
    (hfound : store.collection.find? id = some before)
    (hdescribes : store.schema.Describes before) {took : String} {loaded : Persisted}
    {later : Session} (hload : store.findOne id took s = (.ok (some loaded), later))
    {now : Instant} {fresh : ObjectId} {took' : String}
    (hok : (store.save loaded now fresh took' later).result = .ok true) :
    ∃ after, (store.save loaded now fresh took' later).store.collection.find? id = some after ∧
      after.SameExcept store.config.modifiedField before := by
  obtain ⟨r, id?⟩ := loaded
  obtain ⟨rfl, hrun⟩ := findOne_found hfound hload
  simp only at hrun
  obtain ⟨made, final, hrun', _, _, ⟨d, hd, hfields⟩, d', hd', hschema⟩ :=
    Schema.hydrate_restores hdecl hsound store.schema hstore (Or.inr ⟨_, _, hrun⟩) hdescribes
  obtain ⟨hr, rfl⟩ := Prod.mk.inj (hrun.symm.trans hrun')
  obtain rfl := Except.ok.inj hr
  obtain rfl := Option.some.inj (hd.symm.trans hd')
  rcases store.save_cases ⟨r, some id⟩ now fresh took' later with
    ⟨_, _, heq⟩ | ⟨_, _, _, heq⟩ | ⟨_, _, heq⟩
  · rw [heq] at hok
    cases hok
  · rw [heq] at hok
    cases hok
  · rw [heq]
    refine ⟨_, write_known hfound, ?_⟩
    obtain ⟨d', hd', hsame, hmirrors⟩ := (later.validate_marked r).stamp_mirrors hd
      store.config.modifiedField now
    have hnames : d'.schema.fieldNames = store.schema.fieldNames := by
      rw [hsame, hschema]
    apply Json.Object.sameExcept_merge
    · rw [map_fst_data hd', hnames]
      exact hdecl.fieldNames_nodup hstore
    · intro member hmember hkey
      obtain ⟨f, hf, hname, hmember⟩ := exists_field_of_mem_data hd' hmember
      obtain ⟨j, hj, hv⟩ := hfields f (hsame ▸ hf)
      exact ⟨j, hname ▸ hj, hmember j (hmirrors f (hname ▸ hkey) j hv)⟩

end Store

open Heap

/-- What is loaded and saved back is the data that was there, apart from the time of the save: as
long as the type of the document has the fields of the store's type, the documents nested in it have
exactly the fields of the declared types, and its values are not taken for others when they are
read.  The clock shows a date that there is, and a generated identifier is new. -/
theorem save_back {types : List Schema} {s : Session} (hs : Reachable types s) {store : Store}
    (hstore : store.schema ∈ types) {p : Persisted} {d : Document}
    (hd : s.heap.document? p.document = some d) (hcovers : d.schema.Covers store.schema)
    (hholds : s.heap.Holds Schema.Alike p.document) (hr : s.heap.Readable p.document)
    {now : Instant} (hnow : Instant.inRange now.floorMillis = true) {fresh : ObjectId}
    (hfresh : p.id? = none → store.collection.find? fresh = none) {took : String}
    {saved : Store.Saved} (hsaved : store.save p now fresh took s = saved)
    (hresult : saved.result = .ok true) {id : ObjectId} (hid : saved.document.id? = some id)
    {took' : String} {loaded : Persisted} {later : Session}
    (hload : saved.store.findOne id took' saved.session = (.ok (some loaded), later))
    {now' : Instant} {fresh' : ObjectId} {took'' : String} {again : Store.Saved}
    (hagain : saved.store.save loaded now' fresh' took'' later = again)
    (hok : again.result = .ok true) :
    ∃ before after, saved.store.collection.find? id = some before ∧
      again.store.collection.find? id = some after ∧
      after.SameExcept store.config.modifiedField before := by
  subst hsaved hagain
  have hdecl := hs.declared
  obtain ⟨hdocument, _, hrestamped, ⟨before, hfound, hmembers⟩, _, _⟩ :=
    Store.save_writes hdecl hs.sound (by rw [hd]; rfl) hnow hfresh hresult
  have hchanges := store.save_changes hdecl hs.sound p now fresh took
  obtain ⟨collection, heq⟩ := store.save_store p now fresh took s
  rw [hdocument] at hid
  obtain rfl : p.id?.getD fresh = id := Option.some.inj hid
  obtain ⟨d', hd', hschema⟩ := hchanges.grows.document hd
  have hsound := hchanges.sound hdecl hs.sound
  generalize store.save p now fresh took s = saved at *
  -- the entry describes a document of the store's type
  have hdata : d'.schema.Describes (saved.session.heap.data p.document) :=
    (hrestamped.readable hr).describes hdecl hsound (hrestamped.holds hholds) hd'
  have hdescribes : store.schema.Describes before := by
    rw [hschema] at hdata
    refine (hcovers.describes hdata).of_get?_eq fun f hf => ?_
    obtain ⟨g, hg, hname, _⟩ := hcovers f hf
    have hnames : (saved.session.heap.data p.document).map Prod.fst = d.schema.fieldNames := by
      rw [map_fst_data hd', hschema]
    refine Json.Object.get?_eq_of_members ?_ hmembers ?_
    · rw [hnames]
      exact hdecl.fieldNames_nodup (hs.sound.schema hd)
    · rw [hnames, ← hname]
      exact List.mem_map_of_mem hg
  obtain ⟨after, hafter, hsame⟩ := Store.save_loaded hdecl hsound (by rw [heq]; exact hstore)
    hfound (by rw [heq]; exact hdescribes) hload hok
  refine ⟨before, after, hfound, hafter, ?_⟩
  rw [heq] at hsame
  exact hsame

/-! The person is loaded and saved once more. -/

def loadedPerson : Except StoreError (Option Persisted) × Session :=
  savedPerson.store.findOne (personId 1) "0" savedPerson.session

def personAgain : Store.Saved :=
  savedPerson.store.save ⟨⟨2⟩, some (personId 1)⟩ ⟨1700000060, 5⟩ (personId 3) "0" loadedPerson.2

theorem save_back_person :
    ∃ before after, savedPerson.store.collection.find? (personId 1) = some before ∧
      personAgain.store.collection.find? (personId 1) = some after ∧
      after.SameExcept "seen" before := by
  obtain ⟨d, hd, hschema⟩ :
      ∃ d, personRun.heap.document? ⟨1⟩ = some d ∧ d.schema = peopleStore.schema := ⟨_, rfl, rfl⟩
  have hcovers : d.schema.Covers peopleStore.schema := hschema ▸ .refl d.schema
  have hstore : peopleStore.schema ∈ [personType, addressType] := List.mem_cons_self
  have hnow : Instant.inRange (Instant.mk 1700000000 123456789).floorMillis = true := by decide
  have hsaved : peopleStore.save ⟨⟨1⟩, some (personId 1)⟩ ⟨1700000000, 123456789⟩ (personId 3) "0"
      personRun = savedPerson := rfl
  have hresult : savedPerson.result = .ok true := rfl
  have hid : savedPerson.document.id? = some (personId 1) := rfl
  have hfound : loadedPerson.1 = .ok (some ⟨⟨2⟩, some (personId 1)⟩) := by decide +kernel
  have hload : loadedPerson = (.ok (some ⟨⟨2⟩, some (personId 1)⟩), loadedPerson.2) := by
    rw [← hfound]
  have hagain : savedPerson.store.save ⟨⟨2⟩, some (personId 1)⟩ ⟨1700000060, 5⟩ (personId 3) "0"
      loadedPerson.2 = personAgain := rfl
  have hok : personAgain.result = .ok true := by decide +kernel
  exact save_back personRun_reachable hstore (p := ⟨⟨1⟩, some (personId 1)⟩) hd hcovers
    person_restorable.holds person_restorable.readable hnow (fun hnew => by cases hnew) hsaved
    hresult hid hload hagain hok

/-! A worker, whose age is a number where users have a text, with a box where addresses have none,
a note that looks like a date-time, and a leap second at the end of time. -/

def plainAddressType : Schema :=
  .embedded 0 "Address" [⟨"city", false, none, .string ⟨.free, none, none⟩⟩]

def boxAddressType : Schema :=
  .extend 1 plainAddressType "PoBox" [⟨"box", false, none, .string ⟨.free, none, none⟩⟩]

def userType : Schema :=
  .document 2 "User" [⟨"age", false, none, .string ⟨.free, none, none⟩⟩,
    ⟨"notes", false, none, .array .free none⟩, ⟨"seen", false, none, .dateTime⟩,
    ⟨"home", false, none, .embedded plainAddressType⟩]

def workerType : Schema :=
  .extend 3 userType "Worker" [⟨"age", false, none, .integer ⟨none, none⟩⟩]

def workerRun : Session :=
  [.new boxAddressType, .set ⟨0⟩ "city" (.text "Oslo"), .set ⟨0⟩ "box" (.text "7"), .new workerType,
    .set ⟨1⟩ "age" (.int 30), .set ⟨1⟩ "notes" (.array [.map [("$date", .int 5)]]),
    .set ⟨1⟩ "seen" (.instant ⟨8210266876799, 1500000000⟩),
    .set ⟨1⟩ "home" (.document ⟨0⟩)].foldl Operation.perform .empty

def savedWorker : Store.Saved :=
  Store.save ⟨userType, "users", .empty, .usual⟩ (.ofDocument ⟨1⟩) ⟨1700000000, 0⟩ (personId 1) "0"
    workerRun

def workerAgain : Store.Saved :=
  savedWorker.store.save ⟨⟨2⟩, some (personId 1)⟩ ⟨1700000060, 0⟩ (personId 2) "0"
    (savedWorker.store.findOne (personId 1) "0" savedWorker.session).2

def workerMember (saved : Store.Saved) (key : String) : Json :=
  ((saved.store.collection.find? (personId 1)).bind (·.get? key)).getD .null

/-- None of the four members is the same after the worker was loaded and saved back. -/
theorem save_back_worker :
    savedWorker.result = .ok true ∧
      (savedWorker.store.findOne (personId 1) "0" savedWorker.session).1 =
        .ok (some ⟨⟨2⟩, some (personId 1)⟩) ∧
      workerAgain.result = .ok true ∧
      ∀ key ∈ ["age", "notes", "seen", "home"],
        (workerMember workerAgain key).same (workerMember savedWorker key) = false := by
  decide +kernel

end DocumentModel
