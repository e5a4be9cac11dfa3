/-
Hydration as changes.

A document that is made from JSON is new, and so are the documents and lists made along with it.
What was in the heap before stays as it is, whether hydration succeeds or not.
-/
import DocumentModel.Hydration
import DocumentModel.Proofs.Construction

namespace DocumentModel

namespace Heap

variable {types : List Schema} {n m : Nat} {h later : Heap}

/-- A document in the heap has a field. -/
def HasField (h : Heap) (r : DocRef) (f : Field) : Prop :=
  ∃ d, h.document? r = some d ∧ f ∈ d.schema.fields

theorem HasField.mono (hgrows : h.Grows later) {r : DocRef} {f : Field} (hf : h.HasField r f) :
    later.HasField r f := by
  obtain ⟨d, hd, hmem⟩ := hf
  obtain ⟨d', hd', hschema⟩ := hgrows.document hd
  exact ⟨d', hd', hschema ▸ hmem⟩

/-- Ownership is a matter of the documents alone. -/
theorem Owns.of_documents {r : DocRef} {name : String} {l : ListRef} (howns : h.Owns r name l)
    (hdocuments : later.documents = h.documents) : later.Owns r name l := by
  obtain ⟨d, hd, hown⟩ := howns
  exact ⟨d, by rw [document?, hdocuments]; exact hd, hown⟩

theorem Free.of_documents {l : ListRef} (hfree : h.Free l)
    (hdocuments : later.documents = h.documents) : later.Free l :=
  fun r name howns => hfree r name (howns.of_documents hdocuments.symm)

theorem documents_push (h : Heap) (r : ListRef) (item : DocRef) :
    (h.push r item).2.documents = h.documents := by
  rw [push]
  split
  · rfl
  · split <;> rfl

/-- A new list of the right type is put into its field. -/
theorem Ready.installList_changes (hdecl : Declared types) (hready : h.Ready types n m)
    {r : DocRef} (hr : n ≤ r.index) {f : Field} (hf : h.HasField r f) {schema : Schema}
    (hkind : f.kind = .list schema) {list : ListRef} (hlist : m ≤ list.index) {l : DocumentList}
    (hl : h.list? list = some l) (hschema : l.schema = schema) (hfree : h.Free list) :
    Changes types n m h (h.installList r f.name list) := by
  obtain ⟨d, hd, hmem⟩ := hf
  obtain ⟨slot, hslot, hfits⟩ := hready.sound.slot_of_field hdecl hd hmem
  simp only [installList, hd, hslot]
  refine .single (.newSlot hr hd hmem ⟨hfits.name, ?_, .list _, by simp, ?_, ?_⟩ ?_)
  · rw [hkind]
    exact ⟨list, l, rfl, hl, hschema ▸ Schema.isA_refl _⟩
  · intro hrejected
    have harray := (hfits.rejected hrejected).1
    simp [hkind, Kind.isArray] at harray
  · intro _ schema' l' hkind' hvalue
    obtain rfl : schema = schema' := by simpa [hkind] using hkind'
    obtain rfl : list = l' := by simpa using hvalue
    exact ⟨l, hl, hschema⟩
  · intro _ _ l' hl'
    obtain rfl : list = l' := by simpa using hl'
    exact ⟨hlist, hfree⟩

end Heap

/-- Does hydration make documents for a field of the kind from some JSON? -/
def Kind.nests : Kind → Json → Bool
  | .embedded _, .obj _ => true
  | .list _, .arr _ => true
  | _, _ => false

/-- Make a document from an object and append it to a list.  Other items count for nothing. -/
def Schema.hydrateItem (schema : Schema) (list : ListRef) (item : Json) : Build Unit :=
  match item with
  | .obj nested => do
      let inner ← schema.hydrate nested
      fun h => h.push list inner
  | _ => return ()

namespace Kind

theorem hydrate_embedded_obj (r : DocRef) (name : String) (schema : Schema)
    (nested : Json.Object) :
    (Kind.embedded schema).hydrate r name (.obj nested) =
      (do let inner ← schema.hydrate nested
          fun h => h.set r name (.document inner)) := by
  rw [hydrate]

theorem hydrate_list_arr (r : DocRef) (name : String) (schema : Schema) (items : List Json) :
    (Kind.list schema).hydrate r name (.arr items) =
      (do let own ← fun h => let (own, h) := h.addList ⟨schema, []⟩
            (.ok own, h)
          items.forM (schema.hydrateItem own)
          fun h => (.ok (), h.installList r name own)) := by
  rw [hydrate]
  rfl

/-- Whatever is not nested is assigned. -/
theorem hydrate_of_not_nests (r : DocRef) (name : String) {kind : Kind} {json : Json}
    (hnests : kind.nests json = false) :
    kind.hydrate r name json = fun h => h.set r name (Value.ofJson json) := by
  cases kind with
  | embedded schema =>
      cases json with
      | obj data => cases hnests
      | _ => rfl
  | list schema =>
      cases json with
      | arr items => cases hnests
      | _ => rfl
  | _ => rfl

end Kind

open Build Heap

variable {types : List Schema}

/-- Filling a new list from JSON, one item after the other, leaves it without an owner. -/
theorem Schema.hydrateItems_runs (hdecl : Declared types) {schema : Schema}
    (hitem : ∀ {n m : Nat} {h : Heap} (nested : Json.Object), h.Ready types n m →
      Runs types n m (schema.hydrate nested) h fun _ _ => True)
    {n m : Nat} {list : ListRef} (hlist : m ≤ list.index) (items : List Json) {h : Heap}
    (hready : h.Ready types n m) (hsome : list.index < h.lists.length) (hfree : h.Free list) :
    Runs types n m (items.forM (schema.hydrateItem list)) h fun _ later => later.Free list := by
  induction items generalizing h with
  | nil => exact .pure hfree
  | cons item rest ih =>
      have hone : Runs types n m (schema.hydrateItem list item) h fun _ later =>
          later.Free list := by
        cases item with
        | obj nested =>
            -- the list itself is out of reach of what is made for its items
            obtain ⟨hchanges, _⟩ := hitem nested hready.sound.ready
            refine Runs.bind (P := fun _ mid => mid.Free list)
              ⟨hchanges.weaken hready.documents hready.lists, fun _ _ =>
                hchanges.free hdecl hready.sound hsome hfree⟩ ?_
            intro inner mid hchanges' hfree'
            have hmid := hchanges'.ready hdecl hready
            exact ⟨hmid.sound.push_changes hlist inner, fun _ _ =>
              hfree'.of_documents (documents_push mid list inner)⟩
        | _ => exact .pure hfree
      apply hone.bind
      intro _ later hchanges hfree'
      exact ih (hchanges.ready hdecl hready) (Nat.lt_of_lt_of_le hsome hchanges.lists_length_le)
        hfree'

mutual

/-- Hydration makes a new document of the type. -/
theorem Schema.hydrate_runs (hdecl : Declared types) {n m : Nat} {h : Heap}
    (hready : h.Ready types n m) (data : Json.Object) : (s : Schema) → s ∈ types →
    Runs types n m (s.hydrate data) h fun r later =>
      n ≤ r.index ∧ ∃ d, later.document? r = some d ∧ d.schema = s
  | ⟨id, name, role, parent?, fields⟩, hs => by
      have hover : ∀ f ∈ fields, f.Over types := fun f hf => hdecl.field_over hs hf
      rw [Schema.hydrate]
      apply (Schema.instantiate_runs hdecl hready _ hs).bind
      rintro r later hchanges ⟨hr, d, hd, hschema⟩
      have hlater := hchanges.ready hdecl hready
      have hfields : ∀ f ∈ fields, later.HasField r f := fun f hf =>
        ⟨d, hd, by rw [hschema]; exact hf⟩
      obtain ⟨hfill, _⟩ := Field.hydrateAll_runs hdecl hlater hr data fields hover hfields
      refine Runs.bind (P := fun _ final => later.Grows final)
        ⟨hfill, fun _ _ => hfill.grows⟩ fun _ final _ hgrows => .pure ?_
      obtain ⟨d', hd', hschema'⟩ := hgrows.document hd
      exact ⟨hr, d', hd', hschema'.trans hschema⟩
termination_by structural s => s

theorem Field.hydrateAll_runs (hdecl : Declared types) {n m : Nat} {h : Heap}
    (hready : h.Ready types n m) {r : DocRef} (hr : n ≤ r.index) (data : Json.Object) :
    (fields : List Field) → (∀ f ∈ fields, f.Over types) → (∀ f ∈ fields, h.HasField r f) →
    Runs types n m (Field.hydrateAll r fields data) h fun _ _ => True
  | [], _, _ => Runs.pure trivial
  | f :: rest, hover, hfields => by
      rw [Field.hydrateAll]
      refine (Field.hydrate_runs hdecl hready hr data f (hover f List.mem_cons_self)
        (hfields f List.mem_cons_self)).bind fun _ later hchanges _ => ?_
      exact Field.hydrateAll_runs hdecl (hchanges.ready hdecl hready) hr data rest
        (fun g hg => hover g (List.mem_cons_of_mem f hg))
        (fun g hg => (hfields g (List.mem_cons_of_mem f hg)).mono hchanges.grows)
termination_by structural fields => fields

theorem Field.hydrate_runs (hdecl : Declared types) {n m : Nat} {h : Heap}
    (hready : h.Ready types n m) {r : DocRef} (hr : n ≤ r.index) (data : Json.Object) :
    (f : Field) → f.Over types → h.HasField r f →
    Runs types n m (f.hydrate r data) h fun _ _ => True
  | ⟨name, required, default?, kind⟩, hover, hf => by
      rw [Field.hydrate.eq_def]
      simp only
      cases data.get? name with
      | none => exact Runs.pure trivial
      | some json =>
          exact Kind.hydrate_runs hdecl hready hr (f := ⟨name, required, default?, kind⟩) json kind
            hover.kind hf rfl
termination_by structural f => f

theorem Kind.hydrate_runs (hdecl : Declared types) {n m : Nat} {h : Heap}
    (hready : h.Ready types n m) {r : DocRef} (hr : n ≤ r.index) {f : Field} (json : Json) :
    (kind : Kind) → (∀ s, kind.schema? = some s → s ∈ types ∧ s.isEmbedded = true) →
    h.HasField r f → f.kind = kind →
    Runs types n m (kind.hydrate r f.name json) h fun _ _ => True
  | kind, hover, hf, hkind => by
      have hset : ∀ {h : Heap} {v : Value}, h.Ready types n m → v.Proper →
          Runs types n m (fun h => h.set r f.name v) h fun _ _ => True := fun hready hv =>
        .of_changes (hready.set_changes hdecl hr f.name hv)
      cases hnests : kind.nests json with
      | false =>
          rw [Kind.hydrate_of_not_nests r f.name hnests]
          exact hset hready (Value.ofJson_proper json)
      | true =>
          match kind, json with
          | .embedded schema, .obj nested =>
              have hs := (hover schema rfl).1
              rw [Kind.hydrate_embedded_obj]
              exact (Schema.hydrate_runs hdecl hready nested schema hs).bind
                fun inner later hchanges _ => hset (hchanges.ready hdecl hready) (.document inner)
          | .list schema, .arr items =>
              have hs := (hover schema rfl).1
              have hnew : Changes types n m h (h.addList ⟨schema, []⟩).2 :=
                .single (.newList hs (by simp))
              rw [Kind.hydrate_list_arr]
              refine Runs.bind (P := fun own mid => own = (h.addList ⟨schema, []⟩).1 ∧
                mid = (h.addList ⟨schema, []⟩).2)
                ⟨hnew, fun own hown => ⟨(Except.ok.inj hown).symm, rfl⟩⟩ ?_
              rintro own mid hchanges ⟨rfl, rfl⟩
              have hmid := hchanges.ready hdecl hready
              have hown := list?_addList_self h ⟨schema, []⟩
              have hfree : (h.addList ⟨schema, []⟩).2.Free (h.addList ⟨schema, []⟩).1 :=
                hready.sound.free_of_list?_eq_none hdecl (list?_addList_fst h _)
              obtain ⟨hfill, hpost⟩ := Schema.hydrateItems_runs hdecl
                (fun nested hready => (Schema.hydrate_runs hdecl hready nested schema hs).imp
                  fun _ _ _ => trivial) hready.lists items hmid (list?_lt hown) hfree
              refine Runs.bind (P := fun _ later => later.Free _ ∧ Grows _ later)
                ⟨hfill, fun u hu => ⟨hpost u hu, hfill.grows⟩⟩ ?_
              rintro _ later hchanges' ⟨hfree', hgrows⟩
              obtain ⟨l, hl, hschema⟩ := hgrows.list hown
              have hlater := hchanges'.ready hdecl hmid
              refine .of_changes (hlater.installList_changes hdecl hr ?_ hkind hready.lists hl
                hschema hfree')
              exact hf.mono (hnew.grows.trans hgrows)
termination_by structural kind => kind

end

end DocumentModel
