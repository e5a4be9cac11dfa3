/-
The life of an identifier.

A wrapped document has no identifier until a save of it inserts it under one; a copy has what the
document had that it was cloned from, and what is found has the identifier of its entry.  From then
on it keeps it.  An identifier that was removed does not come back: nothing is found under it,
nothing more is deleted, and a document that still has it cannot be saved.

The data of a document is made before the entry is looked up.  So the save of a document that
contains itself does not even fail.
-/
import DocumentModel.Proofs.StoreRuns

namespace DocumentModel

namespace Store

theorem delete_of_none {store : Store} {p : Persisted} {id : ObjectId} (hid : p.id? = some id)
    (hgone : store.collection.find? id = none) {s : Session}
    (htype : s.heap.documentIsA p.document store.schema = true) (took : String) :
    (store.delete p took s).1 = .ok false := by
  rw [delete, checkSchema, if_pos htype]
  simp only [hid, Collection.remove, hgone, Option.isSome_none]

theorem save_of_save? {store : Store} {p : Persisted} {now : Instant} {fresh : ObjectId}
    {took : String} {s : Session} {saved : Saved}
    (hsaved : store.save? p now fresh took s = some saved) :
    store.save p now fresh took s = saved := by
  rw [save?] at hsaved
  split at hsaved
  · exact Option.some.inj hsaved
  · split at hsaved
    · cases hsaved
    · exact Option.some.inj hsaved
    · obtain ⟨_, _, heq⟩ := Option.map_eq_some_iff.mp hsaved
      exact heq

/-- A valid document that was removed is not saved again. -/
theorem save_of_none {store : Store} {p : Persisted} {id : ObjectId} (hid : p.id? = some id)
    (hgone : store.collection.find? id = none) {s : Session}
    (htype : s.heap.documentIsA p.document store.schema = true)
    (hvalid : (s.validate p.document).1 = true) (now : Instant) (fresh : ObjectId)
    (took : String) : (store.save p now fresh took s).result = .error (.notFound id.toHex) := by
  rcases store.save_cases p now fresh took s with ⟨_, herror, _⟩ | ⟨hinvalid, _⟩ | ⟨_, _, heq⟩
  · rw [checkSchema, if_pos htype] at herror
    cases herror
  · rw [hvalid] at hinvalid
    cases hinvalid
  · rw [heq, write]
    simp only [hid, Collection.update, hgone, Option.isSome_none]

end Store

namespace Desk

variable {types : List Schema} {history : List Event} {d later : Desk} {event : Event}

/-- The document of a handle has an identifier. -/
def Carries (d : Desk) (handle : Nat) (id : ObjectId) : Prop :=
  ∃ p, d.handles[handle]? = some p ∧ p.id? = some id

/-- An event gives an identifier to the document of a handle: a save inserts it, it is found, or it
is cloned from a document that has the identifier. -/
def Event.Gives (before : Nat → ObjectId → Prop) (handle : Nat) (id : ObjectId) : Event → Prop
  | inserted saved fresh _ => handle = saved ∧ id = fresh
  | cloned source copy => handle = copy ∧ before source id
  | found first ids => ∃ k, handle = first + k ∧ ids[k]? = some id
  | wrapped => False
  | updated _ _ _ => False
  | removed _ => False
  | nothing => False

/-- In the course of a history, the document of a handle was given an identifier. -/
def Identified : List Event → Nat → ObjectId → Prop
  | [], _, _ => False
  | event :: earlier, handle, id =>
      Identified earlier handle id ∨ event.Gives (Identified earlier) handle id

theorem Identified.append {earlier : List Event} {handle : Nat} {id : ObjectId}
    (hid : Identified earlier handle id) (later : List Event) :
    Identified (later ++ earlier) handle id := by
  induction later with
  | nil => exact hid
  | cons event rest ih => exact Or.inl ih

/-- Documents that are wrapped come after those that were wrapped before. -/
theorem carries_append {ps : List Persisted} (hhandles : later.handles = d.handles ++ ps)
    (handle : Nat) (id : ObjectId) : later.Carries handle id ↔ d.Carries handle id ∨
      ∃ k, handle = d.handles.length + k ∧ (ps.map (·.id?))[k]? = some (some id) := by
  rw [Carries, Carries, hhandles]
  by_cases hlt : handle < d.handles.length
  · rw [List.getElem?_append_left hlt]
    refine ⟨Or.inl, fun hcarries => hcarries.resolve_right ?_⟩
    rintro ⟨k, rfl, _⟩
    omega
  · obtain ⟨k, rfl⟩ := Nat.exists_eq_add_of_le (Nat.le_of_not_lt hlt)
    rw [List.getElem?_append_right (Nat.le_add_right _ _), Nat.add_sub_cancel_left,
      List.getElem?_eq_none (Nat.le_add_right _ _)]
    simp [Option.map_eq_some_iff]

/-- An action gives identifiers as its event says, and takes none away. -/
theorem Step.carries_iff (hstep : Step d later event) (handle : Nat) (id : ObjectId) :
    later.Carries handle id ↔ d.Carries handle id ∨ event.Gives d.Carries handle id := by
  have hsame : later.handles = d.handles →
      (later.Carries handle id ↔ d.Carries handle id) := fun hhandles => by
    rw [Carries, Carries, hhandles]
  cases hstep with
  | nothing hhandles _ => exact (hsame hhandles).trans (or_false _).symm.to_iff
  | updated _ hhandles _ _ => exact (hsame hhandles).trans (or_false _).symm.to_iff
  | removed hhandles _ _ => exact (hsame hhandles).trans (or_false _).symm.to_iff
  | wrapped hhandles _ hid =>
      rw [carries_append hhandles, Event.Gives]
      simp [List.getElem?_singleton, hid]
  | @cloned i p copy hp hhandles _ hid _ =>
      have hsource : d.Carries i id ↔ copy.id? = some id := by
        simp [Carries, hp, hid]
      rw [carries_append hhandles, Event.Gives, hsource]
      simp [List.getElem?_singleton]
  | @found ps ids hhandles _ hfound _ _ =>
      rw [carries_append hhandles, Event.Gives, hfound]
      simp
  | @inserted i p fresh now hp hhandles _ hid _ =>
      obtain ⟨hi, _⟩ := List.getElem?_eq_some_iff.mp hp
      rw [Event.Gives, Carries, Carries, hhandles]
      by_cases heq : handle = i
      · subst heq
        rw [List.getElem?_set_self hi, hp]
        simp [hid, eq_comm]
      · simp [List.getElem?_set_ne (Ne.symm heq), heq]

/-- Documents with an identifier are of the type of the store. -/
def Typed (d : Desk) : Prop :=
  ∀ p ∈ d.handles, p.id?.isSome = true →
    d.session.heap.documentIsA p.document d.store.schema = true

theorem Step.typed (hstep : Step d later event) (hgrows : d.session.heap.Grows later.session.heap)
    (hschema : later.store.schema = d.store.schema) (hd : d.Typed) : later.Typed := by
  have hold : ∀ p ∈ d.handles, p.id?.isSome = true →
      later.session.heap.documentIsA p.document d.store.schema = true :=
    fun p hp hid => hgrows.documentIsA (hd p hp hid)
  rw [Typed, hschema]
  cases hstep with
  | nothing hhandles _ => rwa [hhandles]
  | updated _ hhandles _ _ => rwa [hhandles]
  | removed hhandles _ _ => rwa [hhandles]
  | wrapped hhandles _ hid =>
      rw [hhandles, List.forall_mem_append, List.forall_mem_singleton, hid]
      exact ⟨hold, fun hnone => by cases hnone⟩
  | cloned hp hhandles _ hid htype =>
      rw [hhandles, List.forall_mem_append, List.forall_mem_singleton, hid]
      exact ⟨hold, fun hsome => htype (hd _ (List.mem_of_getElem? hp) hsome)⟩
  | found hhandles _ _ _ htype =>
      rw [hhandles, List.forall_mem_append]
      exact ⟨hold, fun p hp _ => htype p hp⟩
  | inserted _ hhandles _ _ htype =>
      rw [hhandles]
      intro p' hp' hid'
      rcases List.mem_or_eq_of_mem_set hp' with hmem | rfl
      · exact hold p' hmem hid'
      · exact hgrows.documentIsA htype

/-- In the course of a run, a document has an identifier exactly if the history gave it that. -/
theorem Run.carries_iff (hrun : Run types history d) (handle : Nat) (id : ObjectId) :
    d.Carries handle id ↔ Identified history handle id := by
  induction hrun generalizing handle id with
  | start _ _ _ => simp [Carries, Identified]
  | declare _ _ _ ih => exact ih handle id
  | @act _ history d a hrun _ _ ih =>
      have hbefore : d.Carries = Identified history :=
        funext fun handle => funext fun id => propext (ih handle id)
      rw [(perform_step hrun.reachable.1 hrun.reachable.2 a).carries_iff, hbefore, Identified]

theorem Run.typed (hrun : Run types history d) : d.Typed := by
  induction hrun with
  | start _ _ _ => exact fun p hp => by cases hp
  | declare _ _ _ ih => exact ih
  | @act _ _ d a hrun hover _ ih =>
      obtain ⟨hs, hschema⟩ := hrun.reachable
      obtain ⟨collection, hstore⟩ := d.perform_store a
      exact (perform_step hs hschema a).typed (perform_grows hs hschema hover) (by rw [hstore]) ih

/-- What was removed is not in the collection. -/
theorem Accounts.find?_eq_none (hd : Accounts history d) {id : ObjectId}
    (hid : id ∈ removed history) : d.store.collection.find? id = none :=
  Collection.find?_eq_none_iff.mpr fun hmem =>
    (List.nodup_append.mp hd.ids_nodup).2.2 id hmem id hid rfl

/-- A wrapped document has exactly the identifiers that the history gave it, at most one therefore,
and keeps what it has.  What was removed is not found any more; deleting a document that has its
identifier returns false, and saving one that is valid comes to nothing but a failure for want of
the entry, and does come to that if neither the document nor one in it contains itself.  As many
entries are there as were inserted and not removed. -/
theorem identifier_life (hrun : Run types history d) :
    (∀ handle id, d.Carries handle id ↔ Identified history handle id) ∧
    (∀ later earlier, history = later ++ earlier →
      ∀ handle id, Identified earlier handle id → d.Carries handle id) ∧
    (∀ id ∈ removed history, id ∉ d.ids ∧
      (∀ took, (d.store.findOne id took d.session).1 = .ok none) ∧
      ∀ p ∈ d.handles, p.id? = some id →
        (∀ took, (d.store.delete p took d.session).1 = .ok false) ∧
        ∀ later, d.session.validate? p.document = some (true, later) → ∀ now fresh took,
          (∀ saved, d.store.save? p now fresh took d.session = some saved →
            saved.result = .error (.notFound id.toHex)) ∧
          (d.session.heap.Acyclic p.document →
            (d.store.save? p now fresh took d.session).isSome = true)) ∧
    d.store.collection.size + (removed history).length = (inserted history).length := by
  have haccounts := hrun.accounts
  refine ⟨hrun.carries_iff, ?_, fun id hid => ?_, ?_⟩
  · rintro later earlier rfl handle id hearlier
    exact (hrun.carries_iff handle id).mpr (hearlier.append later)
  · have hgone := haccounts.find?_eq_none hid
    refine ⟨Collection.find?_eq_none_iff.mp hgone,
      fun took => Store.findOne_of_none hgone took d.session, fun p hp hpid => ?_⟩
    have htype := hrun.typed p hp (by rw [hpid]; rfl)
    refine ⟨fun took => Store.delete_of_none hpid hgone htype took,
      fun later hvalid now fresh took => ⟨fun saved hsaved => ?_, fun hacyclic => ?_⟩⟩
    · obtain ⟨_, hresult⟩ := Session.validate?_eq_some_iff.mp hvalid
      rw [← Store.save_of_save? hsaved]
      exact Store.save_of_none hpid hgone htype (congrArg Prod.fst hresult) now fresh took
    · rw [Store.save?_of_acyclic hvalid hacyclic]
      rfl
  · have hlength := haccounts.perm.length_eq
    rwa [List.length_append, ids, List.length_map] at hlength

/-! A ticket is saved, cloned, and deleted by way of the clone. -/

def ticketType : Schema :=
  .document 0 "Ticket" [⟨"title", true, none, .string ⟨.free, none, none⟩⟩]

def emptyDesk : Desk :=
  ⟨⟨ticketType, "tickets", .empty, ⟨"created_at", "updated_at", true⟩⟩, .empty, []⟩

def ticketActions : List Action :=
  [.create, .other (.set ⟨0⟩ "title" (.text "leak")), .save 0 ⟨1700000000, 0⟩ (.ofNat 7) "0",
    .clone 0, .delete 1 "0"]

def ticketDesk : Desk :=
  ticketActions.foldl (fun d a => (d.perform a).2) emptyDesk

def ticketHistory : List Event :=
  [.removed (.ofNat 7), .cloned 0 1, .inserted 0 (.ofNat 7) ⟨1700000000, 0⟩, .nothing, .wrapped]

theorem ticketRun : Run [ticketType] ticketHistory ticketDesk := by
  have hempty : Run [ticketType] [] emptyDesk :=
    .start (.of_plain (by simp [Kind.schema?])) List.mem_cons_self rfl
  have hcreated := hempty.act .create trivial trivial
  have hset := hcreated.act (.other (.set ⟨0⟩ "title" (.text "leak"))) (.text _) trivial
  have hsaved := hset.act (.save 0 ⟨1700000000, 0⟩ (.ofNat 7) "0") trivial List.not_mem_nil
  have hcloned := hsaved.act (.clone 0) trivial trivial
  exact hcloned.act (.delete 1 "0") trivial trivial

/-- The ticket that was saved first still has its identifier, and can be neither deleted nor saved
again. -/
theorem identifier_life_ticket :
    ticketDesk.Carries 0 (.ofNat 7) ∧ ticketDesk.Carries 1 (.ofNat 7) ∧
      ticketDesk.store.collection.size = 0 ∧
      (ticketDesk.store.findOne (.ofNat 7) "0" ticketDesk.session).1 = .ok none ∧
      (ticketDesk.store.delete ⟨⟨0⟩, some (.ofNat 7)⟩ "0" ticketDesk.session).1 = .ok false ∧
      ∃ saved, ticketDesk.store.save? ⟨⟨0⟩, some (.ofNat 7)⟩ ⟨1700000060, 0⟩ (.ofNat 8) "0"
          ticketDesk.session = some saved ∧
        saved.result = .error (.notFound (ObjectId.toHex (.ofNat 7))) := by
  obtain ⟨hcarries, _, hremoved, hcount⟩ := identifier_life ticketRun
  have hfirst : ⟨⟨0⟩, some (.ofNat 7)⟩ ∈ ticketDesk.handles := List.mem_cons_self
  obtain ⟨_, hfind, hgone⟩ := hremoved (.ofNat 7) List.mem_cons_self
  obtain ⟨hdelete, hsave⟩ := hgone _ hfirst rfl
  have hinserted : Identified ticketHistory 0 (.ofNat 7) := .inl (.inl (.inr ⟨rfl, rfl⟩))
  have hcloned : Identified ticketHistory 1 (.ofNat 7) := .inl (.inr ⟨rfl, .inr ⟨rfl, rfl⟩⟩)
  have hacyclic : ticketDesk.session.heap.Acyclic ⟨0⟩ := (Heap.data?_eq_some_iff.mp rfl).1
  obtain ⟨hfails, hends⟩ := hsave _ rfl ⟨1700000060, 0⟩ (.ofNat 8) "0"
  obtain ⟨saved, hsaved⟩ := Option.isSome_iff_exists.mp (hends hacyclic)
  exact ⟨(hcarries 0 _).mpr hinserted, (hcarries 1 _).mpr hcloned, Nat.succ.inj hcount,
    hfind "0", hdelete "0", saved, hsaved, hfails saved hsaved⟩

/-! A chain is saved and deleted, and then given a link that is in its own list. -/

def chainType : Schema :=
  .document 2 "Chain" [⟨"first", false, none, .embedded nodeType⟩]

def chainStart : Desk :=
  ⟨⟨chainType, "chains", .empty, ⟨"created_at", "updated_at", false⟩⟩, .empty, []⟩

def chainActions : List Action :=
  [.create, .save 0 ⟨1700000000, 0⟩ (.ofNat 7) "0", .delete 0 "0", .other (.new linkType),
    .other (.push ⟨0⟩ ⟨1⟩), .other (.set ⟨0⟩ "first" (.document ⟨1⟩))]

def chainDesk : Desk :=
  chainActions.foldl (fun d a => (d.perform a).2) chainStart

def chainHistory : List Event :=
  [.nothing, .nothing, .nothing, .removed (.ofNat 7), .inserted 0 (.ofNat 7) ⟨1700000000, 0⟩,
    .wrapped]

theorem chainRun : Run [chainType, linkType, nodeType] chainHistory chainDesk := by
  have hfirst : Field.Over [linkType, nodeType] ⟨"first", false, none, .embedded nodeType⟩ := by
    constructor
    · rintro t ⟨⟩
      exact ⟨by simp, rfl⟩
    · rintro d ⟨⟩
  have hdecl : Declared [chainType, linkType, nodeType] :=
    .document linkTypes_declared (by decide) (List.forall_mem_singleton.mpr hfirst)
  have hreachable : Reachable [chainType, linkType, nodeType] .empty :=
    .of_no_default hdecl (by simp [chainType, linkType, nodeType, Schema.document, Schema.extend,
      Schema.embedded, Schema.addFields, Schema.addField])
  have hempty : Run [chainType, linkType, nodeType] [] chainStart :=
    .start hreachable List.mem_cons_self rfl
  have hcreated := hempty.act .create trivial trivial
  have hsaved := hcreated.act (.save 0 ⟨1700000000, 0⟩ (.ofNat 7) "0") trivial List.not_mem_nil
  have hdeleted := hsaved.act (.delete 0 "0") trivial trivial
  have hlink := hdeleted.act (.other (.new linkType)) (List.mem_cons_of_mem _ List.mem_cons_self)
    trivial
  have hpushed := hlink.act (.other (.push ⟨0⟩ ⟨1⟩)) trivial trivial
  exact hpushed.act (.other (.set ⟨0⟩ "first" (.document ⟨1⟩))) (.document _) trivial

/-- The chain is valid and still has its identifier, which was removed.  But saving it comes to
nothing: its data has no end. -/
theorem identifier_life_chain :
    Run [chainType, linkType, nodeType] chainHistory chainDesk ∧
      .ofNat 7 ∈ removed chainHistory ∧ ⟨⟨0⟩, some (.ofNat 7)⟩ ∈ chainDesk.handles ∧
      chainDesk.session.heap.documentIsA ⟨0⟩ chainType = true ∧
      (∃ later, chainDesk.session.validate? ⟨0⟩ = some (true, later)) ∧
      chainDesk.store.save? ⟨⟨0⟩, some (.ofNat 7)⟩ ⟨1700000060, 0⟩ (.ofNat 8) "0"
        chainDesk.session = none :=
  ⟨chainRun, List.mem_cons_self, List.mem_cons_self, rfl, ⟨_, rfl⟩, rfl⟩

end Desk

end DocumentModel
