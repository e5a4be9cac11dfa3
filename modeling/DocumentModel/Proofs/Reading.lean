/-
Hydration from any data.

As long as documents of its type and of the types nested in it can be made, hydration succeeds,
whatever the data are: a member that a field has no use for is kept, refused or passed over.  What a
field holds then is a matter of its own member.
-/
import DocumentModel.Proofs.Restoring
import DocumentModel.Proofs.Validity

namespace DocumentModel

def Json.isObj : Json → Bool
  | .obj _ => true
  | _ => false

/-- What a field of a kind holds that was filled from some JSON, and whether it was refused.
Nothing is said of JSON that the kind has no use for. -/
def Kind.Reads (h : Heap) (kind : Kind) (j : Json) (v : Value) (refused : Bool) : Prop :=
  match kind, j with
  | .embedded _, .null => v = .null
  | .embedded _, .obj _ => ∃ inner, v = .document inner
  | .embedded _, _ => True
  | .list _, .arr items => ∃ own l, v = .list own ∧ h.list? own = some l ∧
      l.items.length = items.countP Json.isObj
  | .list _, _ => True
  | kind, j => kind.Accepts j → v = .ofJson j ∧ refused = false

theorem Kind.reads_plain {h : Heap} {kind : Kind} (hplain : kind.schema? = none) {j : Json}
    {v : Value} {refused : Bool} :
    kind.Reads h j v refused ↔ (kind.Accepts j → v = .ofJson j ∧ refused = false) := by
  cases kind with
  | embedded schema => cases hplain
  | list schema => cases hplain
  | _ => rfl

theorem Kind.Reads.mono {h later : Heap} {kind : Kind} {j : Json} {v : Value} {refused : Bool}
    (hreads : kind.Reads h j v refused)
    (hlists : ∀ {l c}, h.list? l = some c → later.list? l = some c) :
    kind.Reads later j v refused := by
  cases kind with
  | list schema =>
      cases j with
      | arr items =>
          obtain ⟨own, l, hv, hl, hlength⟩ := hreads
          exact ⟨own, l, hv, hlists hl, hlength⟩
      | _ => trivial
  | embedded schema => cases j <;> exact hreads
  | _ => exact hreads

/-- No JSON stands for a document or a list, and only a sequence stands for a sequence. -/
theorem Value.ofJson_shape (j : Json) :
    match ofJson j with
    | .null => j = .null
    | .array _ => ∃ items, j = .arr items
    | .document _ => False
    | .list _ => False
    | _ => True := by
  cases j with
  | int n =>
      by_cases hfits : fitsInt64 n = true <;> simp [ofJson, hfits]
  | obj members =>
      rcases ofJson_obj_cases members with ⟨_, heq⟩ | ⟨_, heq⟩ | ⟨_, heq⟩ <;> rw [heq] <;> trivial
  | _ => simp [ofJson]

namespace Heap

variable {types : List Schema} {h later : Heap} {r : DocRef} {f : Field} {j : Json}

/-- A field holds what it was filled with. -/
def FieldReads (h : Heap) (r : DocRef) (f : Field) (j : Json) : Prop :=
  ∃ d, h.document? r = some d ∧ f.kind.Reads h j (d.value f.name) (d.refused f.name)

/-- Changes to other fields of the document do not matter. -/
theorem FieldReads.mono (hreads : h.FieldReads r f j) {names : List String}
    (honly : h.OnlyAt r names later) (hname : f.name ∉ names) : later.FieldReads r f j := by
  obtain ⟨d, hd, hreads⟩ := hreads
  obtain ⟨d', hd', _, hslots⟩ := honly.slots hd
  refine ⟨d', hd', ?_⟩
  rw [Document.value, Document.value?, Document.refused, hslots f.name hname]
  exact Kind.Reads.mono hreads honly.lists


/-- What is not nested is kept out, refused, or assigned as it is read, and makes no list.  The heap
matters only to how it is coerced. -/
theorem assign_reads (hnests : f.kind.nests j = false) :
    ∃ a : Heap → Assignment, (∀ h current, h.assign f current (.ofJson j) = (a h, h)) ∧
      (∀ h later slot, f.kind.Reads later j ((a h).apply slot).value ((a h).apply slot).rejected) ∧
      ((a = fun _ => .keep) ∨ (a = fun _ => .reject) ∨ (a = fun _ => .store (.ofJson j)) ∨
        a = fun h => .store (f.coerce h (.ofJson j))) := by
  have hshape := Value.ofJson_shape j
  cases hkind : f.kind with
  | embedded schema =>
      rw [hkind] at hnests
      have hkeep : j ≠ .null → ∀ (_ later : Heap) (slot : Slot),
          (Kind.embedded schema).Reads later j slot.value slot.rejected := by
        intro hnull _ later slot
        cases j with
        | null => exact absurd rfl hnull
        | obj members => cases hnests
        | _ => trivial
      cases hv : Value.ofJson j with
      | null =>
          rw [hv] at hshape
          obtain rfl : j = .null := hshape
          exact ⟨fun _ => .store .null, fun _ _ => by simp [assign, hkind], fun _ _ _ => rfl,
            .inr (.inr (.inl rfl))⟩
      | document inner => simp [hv] at hshape
      | _ =>
          refine ⟨fun _ => .keep, fun _ _ => by simp [assign, hkind], hkeep ?_, .inl rfl⟩
          rintro rfl
          cases hv
  | list schema =>
      rw [hkind] at hnests
      refine ⟨fun _ => .keep, fun _ _ => ?_, fun _ later slot => ?_, .inl rfl⟩
      · cases hv : Value.ofJson j with
        | array items =>
            rw [hv] at hshape
            obtain ⟨js, rfl⟩ := hshape
            cases hnests
        | list own => simp [hv] at hshape
        | _ => simp [assign, hkind, assignList, offered?]
      · cases j with
        | arr items => cases hnests
        | _ => trivial
  | array lengths check? =>
      cases hv : Value.ofJson j with
      | null =>
          exact ⟨fun _ => .store .null, fun _ _ => by simp [assign, hkind],
            fun _ _ _ _ => ⟨hv.symm, rfl⟩, .inr (.inr (.inl rfl))⟩
      | array items =>
          exact ⟨fun _ => .store (.array items), fun _ _ => by simp [assign, hkind],
            fun _ _ _ _ => ⟨hv.symm, rfl⟩, .inr (.inr (.inl rfl))⟩
      | list own => simp [hv] at hshape
      | _ =>
          refine ⟨fun _ => .reject, fun _ _ => by simp [assign, hkind], fun _ _ _ haccepts => ?_,
            .inr (.inl rfl)⟩
          rcases haccepts with rfl | ⟨items, rfl⟩ <;> cases hv
  | _ =>
      refine ⟨fun h => .store (f.coerce h (.ofJson j)), fun _ _ => by simp [assign, hkind], ?_,
        .inr (.inr (.inr rfl))⟩
      intro h later slot haccepts
      exact ⟨f.coerce_ofJson h (by rw [hkind]; exact haccepts), rfl⟩

/-- What is not nested is assigned, and the field holds what was read. -/
theorem set_reads (hdecl : Declared types) (hsound : h.Sound types) (hf : h.HasField r f)
    (hnests : f.kind.nests j = false) :
    ∃ later, h.set r f.name (.ofJson j) = (.ok (), later) ∧ h.OnlyAt r [f.name] later ∧
      later.FieldReads r f j := by
  obtain ⟨a, hassign, hreads, _⟩ := assign_reads hnests
  obtain ⟨later, hset, honly, _, d, slot, _, _, hd, hslot⟩ :=
    set_apply hdecl hsound hf (hassign h)
  refine ⟨later, hset, honly, d, hd, ?_⟩
  rw [Document.value_of_slot? hslot, Document.refused, hslot]
  exact hreads h later slot

/-- Some documents were put into a list, and all that was there before stays as it is. -/
structure Appended (h : Heap) (own : ListRef) (count : Nat) (later : Heap) : Prop where
  documents : ∀ s d, h.document? s = some d → later.document? s = some d
  lists : ∀ s l, s ≠ own → h.list? s = some l → later.list? s = some l
  items : ∀ l, h.list? own = some l → ∃ l', later.list? own = some l' ∧ l'.schema = l.schema ∧
    l'.items.length = l.items.length + count

theorem Appended.refl (h : Heap) (own : ListRef) : h.Appended own 0 h :=
  ⟨fun _ _ hd => hd, fun _ _ _ hl => hl, fun l hl => ⟨l, hl, rfl, rfl⟩⟩

theorem Appended.trans {mid : Heap} {own : ListRef} {count count' : Nat}
    (hmid : h.Appended own count mid) (hlater : mid.Appended own count' later) :
    h.Appended own (count + count') later where
  documents s d hd := hlater.documents s d (hmid.documents s d hd)
  lists s l hs hl := hlater.lists s l hs (hmid.lists s l hs hl)
  items l hl := by
    obtain ⟨l', hl', hschema', hlength'⟩ := hmid.items l hl
    obtain ⟨l'', hl'', hschema'', hlength''⟩ := hlater.items l' hl'
    exact ⟨l'', hl'', hschema''.trans hschema', by omega⟩

end Heap

open Build Heap

variable {types : List Schema}

/-- Documents of a type can be made of any data, in any heap where nothing is in the way but that
documents of the types concerned have to be made. -/
def Schema.Hydrates (types : List Schema) (s : Schema) : Prop :=
  ∀ {h : Heap} (data : Json.Object), h.Sound types → Feasible types s.Nests (s.hydrate data) h →
    ∃ r later, s.hydrate data h = (.ok r, later)

/-- An object among the items becomes one more document of the list, and nothing else counts. -/
theorem Schema.hydrateItem_appends (hdecl : Declared types) {schema : Schema}
    (hs : schema ∈ types) (hhydrates : schema.Hydrates types) {own : ListRef} (item : Json)
    {h : Heap} (hsound : h.Sound types)
    (hok : Feasible types schema.Nests (schema.hydrateItem own item) h)
    {items : List DocRef} (hl : h.list? own = some ⟨schema, items⟩) :
    ∃ later, schema.hydrateItem own item h = (.ok (), later) ∧ Changes types 0 0 h later ∧
      h.Appended own (if item.isObj then 1 else 0) later := by
  cases item with
  | obj data =>
      obtain ⟨inner, mid, hhydrate⟩ := hhydrates data hsound hok.first
      obtain ⟨hchanges, hpost⟩ := Schema.hydrate_runs hdecl hsound.ready data schema hs
      rw [hhydrate] at hchanges hpost
      obtain ⟨_, d, hd, hschema⟩ := hpost inner rfl
      have hkeeps := hchanges.keeps
      obtain ⟨later, hone, hfill, hown, hdocument, hlist⟩ :=
        Schema.hydrateItem_obj hdecl hhydrate hchanges hsound ⟨d, hd, hschema⟩ hl
      refine ⟨later, hone, hfill,
        fun s d hd => hdocument s d (hkeeps.document (document?_lt hd) hd),
        fun s l hne hl => hlist s l hne (hkeeps.list (list?_lt hl) hl), fun l hl' => ?_⟩
      obtain rfl := Option.some.inj (hl.symm.trans hl')
      exact ⟨_, hown, rfl, by simp [Json.isObj]⟩
  | _ => exact ⟨h, rfl, .refl h, .refl h own⟩

/-- The items are gone through in order. -/
theorem Schema.hydrateItems_appends (hdecl : Declared types) {schema : Schema}
    (hs : schema ∈ types) (hhydrates : schema.Hydrates types) {own : ListRef} (items : List Json)
    {h : Heap} (hsound : h.Sound types)
    (hok : Feasible types schema.Nests (items.forM (schema.hydrateItem own)) h)
    {held : List DocRef} (hl : h.list? own = some ⟨schema, held⟩) :
    ∃ later, items.forM (schema.hydrateItem own) h = (.ok (), later) ∧ Changes types 0 0 h later ∧
      h.Appended own (items.countP Json.isObj) later := by
  induction items generalizing h held with
  | nil => exact ⟨h, rfl, .refl h, .refl h own⟩
  | cons item rest ih =>
      obtain ⟨mid, hone, hchanges, hfirst⟩ :=
        Schema.hydrateItem_appends hdecl hs hhydrates item hsound hok.first hl
      obtain ⟨⟨schema', held'⟩, hmid, hschema, _⟩ := hfirst.items _ hl
      obtain rfl : schema' = schema := hschema
      obtain ⟨later, hrun, hchanges', hrest⟩ := ih (hchanges.sound hdecl hsound)
        (hok.rest hone hchanges.grows) hmid
      refine ⟨later, ?_, hchanges.trans hchanges', ?_⟩
      · rw [List.forM, Build.bind_apply, hone]
        exact hrun
      · rw [List.countP_cons, Nat.add_comm]
        exact hfirst.trans hrest

/-- An embedded field holds the document that is made of an object. -/
theorem Kind.hydrate_embedded_reads (hdecl : Declared types) {schema : Schema}
    (hs : schema ∈ types) (hhydrates : schema.Hydrates types) {h : Heap} (hsound : h.Sound types)
    {r : DocRef} {f : Field} (hf : h.HasField r f) (hkind : f.kind = .embedded schema)
    (data : Json.Object)
    (hok : Feasible types schema.Nests ((Kind.embedded schema).hydrate r f.name (.obj data)) h) :
    ∃ later, (Kind.embedded schema).hydrate r f.name (.obj data) h = (.ok (), later) ∧
      h.OnlyAt r [f.name] later ∧ later.FieldReads r f (.obj data) := by
  rw [Kind.hydrate_embedded_obj] at hok
  obtain ⟨inner, mid, hhydrate⟩ := hhydrates data hsound hok.first
  obtain ⟨hchanges, hpost⟩ := Schema.hydrate_runs hdecl hsound.ready data schema hs
  rw [hhydrate] at hchanges hpost
  obtain ⟨later, hrun, honly, d, hd, hvalue⟩ := Kind.hydrate_embedded_holds hdecl hhydrate
    (hchanges.sound hdecl hsound) (hpost inner rfl).2 (hf.mono hchanges.grows) hkind
  refine ⟨later, hrun, (hchanges.keeps.onlyAt r []).trans honly, d, hd, ?_⟩
  rw [hkind]
  exact ⟨inner, hvalue⟩

/-- A list field holds a list of the documents that are made of objects. -/
theorem Kind.hydrate_list_reads (hdecl : Declared types) {schema : Schema}
    (hs : schema ∈ types) (hhydrates : schema.Hydrates types) {h : Heap} (hsound : h.Sound types)
    {r : DocRef} {f : Field} (hf : h.HasField r f) (hkind : f.kind = .list schema)
    (items : List Json)
    (hok : Feasible types schema.Nests ((Kind.list schema).hydrate r f.name (.arr items)) h) :
    ∃ later, (Kind.list schema).hydrate r f.name (.arr items) h = (.ok (), later) ∧
      h.OnlyAt r [f.name] later ∧ later.FieldReads r f (.arr items) := by
  have hnew : Changes types 0 0 h (h.addList ⟨schema, []⟩).2 := .single (.newList hs (by simp))
  have hown := list?_addList_self h ⟨schema, []⟩
  rw [Kind.hydrate_list_arr] at hok
  have hitems : Feasible types schema.Nests
      (items.forM (schema.hydrateItem (h.addList ⟨schema, []⟩).1)) (h.addList ⟨schema, []⟩).2 :=
    (hok.rest rfl hnew.grows).first
  generalize hfresh : (h.addList ⟨schema, []⟩).1 = own at hown hitems
  obtain ⟨mid, hfill, hchanges, happended⟩ := Schema.hydrateItems_appends hdecl hs hhydrates items
    (hnew.sound hdecl hsound) hitems hown
  obtain ⟨l, hl, _, hlength⟩ := happended.items _ hown
  obtain ⟨later, hrun, hbefore, honly, d, hd, hvalue, _⟩ := Kind.hydrate_list_holds hdecl hfresh
    hfill (hchanges.sound hdecl (hnew.sound hdecl hsound)) happended.documents happended.lists hf
  refine ⟨later, hrun, hbefore, d, hd, ?_⟩
  rw [hkind]
  exact ⟨own, l, hvalue, honly.lists hl, by simpa using hlength⟩

mutual

/-- Hydration that is feasible succeeds, and each field holds what it read. -/
theorem Schema.hydrate_reads (hdecl : Declared types) {h : Heap} (hsound : h.Sound types)
    (data : Json.Object) : (s : Schema) → s ∈ types → Feasible types s.Nests (s.hydrate data) h →
    ∃ r later, s.hydrate data h = (.ok r, later) ∧ ∃ d, later.document? r = some d ∧ d.schema = s ∧
      ∀ f ∈ s.fields, ∀ j, data.get? f.name = some j → later.FieldReads r f j
  | ⟨id, name, role, parent?, fields⟩, hs, hok => by
      rw [Schema.hydrate] at hok
      obtain ⟨r, hr⟩ := hok.first.instantiate .refl hsound
      obtain ⟨hchanges, hpost⟩ := Schema.instantiate_runs hdecl hsound.ready _ hs
      obtain ⟨_, d, hd, hschema⟩ := hpost r hr
      have hmake : Schema.instantiate ⟨id, name, role, parent?, fields⟩ h =
          (.ok r, (Schema.instantiate ⟨id, name, role, parent?, fields⟩ h).2) := Prod.ext hr rfl
      generalize (Schema.instantiate ⟨id, name, role, parent?, fields⟩ h).2 = mid at *
      have hokFields := (hok.rest hmake hchanges.grows).first
      obtain ⟨later, hrun, honly, hreads⟩ := Field.hydrateAll_reads hdecl
        (hchanges.sound hdecl hsound) data fields (hdecl.fieldNames_nodup hs)
        (fun f hf => hdecl.field_over hs hf) (fun f hf => ⟨d, hd, by rw [hschema]; exact hf⟩)
        (hokFields.weaken fun t ⟨f, hf, s, hkind, ht⟩ => .head ⟨f, hf, hkind⟩ ht)
      obtain ⟨d', hd', hschema', _⟩ := honly.slots hd
      refine ⟨r, later, ?_, d', hd', hschema'.trans hschema, hreads⟩
      rw [Schema.hydrate, Build.bind_apply, hmake]
      simp only [Build.bind_apply, hrun, Build.pure_apply]
termination_by structural s => s

theorem Field.hydrateAll_reads (hdecl : Declared types) {h : Heap} (hsound : h.Sound types)
    {r : DocRef} (data : Json.Object) : (fields : List Field) → (fields.map (·.name)).Nodup →
    (∀ f ∈ fields, f.Over types) → (∀ f ∈ fields, h.HasField r f) →
    Feasible types (fun t => ∃ f ∈ fields, f.kind.Needs t) (Field.hydrateAll r fields data) h →
    ∃ later, Field.hydrateAll r fields data h = (.ok (), later) ∧
      h.OnlyAt r (fields.map (·.name)) later ∧
      ∀ f ∈ fields, ∀ j, data.get? f.name = some j → later.FieldReads r f j
  | [], _, _, _, _ => ⟨h, rfl, .refl r [] h, by simp⟩
  | f :: rest, hnodup, hover, hfields, hok => by
      rw [Field.hydrateAll] at hok
      obtain ⟨hname, hnodupRest⟩ := List.nodup_cons.mp hnodup
      obtain ⟨mid, hfirst, honly, hreads⟩ := Field.hydrate_reads hdecl hsound data f
        (hover f List.mem_cons_self) (hfields f List.mem_cons_self)
        (hok.first.weaken fun t ht => ⟨f, List.mem_cons_self, ht⟩)
      have hchanges := (Field.hydrate_runs hdecl hsound.ready_zero (Nat.zero_le r.index) data f
        (hover f List.mem_cons_self) (hfields f List.mem_cons_self)).1
      rw [hfirst] at hchanges
      have hmem : ∀ {g}, g ∈ rest → g ∈ f :: rest := List.mem_cons_of_mem f
      obtain ⟨later, hrest, honlyRest, hreadsRest⟩ := Field.hydrateAll_reads hdecl
        (hchanges.sound hdecl hsound) data rest hnodupRest (fun g hg => hover g (hmem hg))
        (fun g hg => (hfields g (hmem hg)).mono hchanges.grows)
        ((hok.rest hfirst hchanges.grows).weaken fun t ⟨g, hg, ht⟩ => ⟨g, hmem hg, ht⟩)
      refine ⟨later, ?_, honly.trans honlyRest,
        List.forall_mem_cons.mpr ⟨fun j hj => ?_, hreadsRest⟩⟩
      · rw [Field.hydrateAll, Build.bind_apply, hfirst]
        exact hrest
      · -- the first field is none of the others
        exact (hreads j hj).mono honlyRest hname
termination_by structural fields => fields

theorem Field.hydrate_reads (hdecl : Declared types) {h : Heap} (hsound : h.Sound types)
    {r : DocRef} (data : Json.Object) : (f : Field) → f.Over types → h.HasField r f →
    Feasible types f.kind.Needs (f.hydrate r data) h →
    ∃ later, f.hydrate r data h = (.ok (), later) ∧ h.OnlyAt r [f.name] later ∧
      ∀ j, data.get? f.name = some j → later.FieldReads r f j
  | ⟨name, required, default?, kind⟩, hover, hf, hok => by
      rw [Field.hydrate.eq_def] at hok ⊢
      simp only at hok ⊢
      cases hget : data.get? name with
      | none => exact ⟨h, rfl, .refl r _ h, fun j hj => by cases hj⟩
      | some j =>
          rw [hget] at hok
          obtain ⟨later, hrun, honly, hreads⟩ := Kind.hydrate_reads hdecl hsound
            (f := ⟨name, required, default?, kind⟩) j kind hover.kind hf rfl hok
          refine ⟨later, hrun, honly, fun j' hj' => ?_⟩
          obtain rfl := Option.some.inj hj'
          exact hreads
termination_by structural f => f

theorem Kind.hydrate_reads (hdecl : Declared types) {h : Heap} (hsound : h.Sound types)
    {r : DocRef} {f : Field} (j : Json) : (kind : Kind) →
    (∀ s, kind.schema? = some s → s ∈ types ∧ s.isEmbedded = true) → h.HasField r f →
    f.kind = kind → Feasible types kind.Needs (kind.hydrate r f.name j) h →
    ∃ later, kind.hydrate r f.name j h = (.ok (), later) ∧ h.OnlyAt r [f.name] later ∧
      later.FieldReads r f j
  | kind, hover, hf, hkind, hok => by
      cases hnests : kind.nests j with
      | false =>
          rw [Kind.hydrate_of_not_nests r f.name hnests]
          exact set_reads hdecl hsound hf (hkind ▸ hnests)
      | true =>
          match kind, j with
          | .embedded schema, .obj data =>
              have hs := (hover schema rfl).1
              refine Kind.hydrate_embedded_reads hdecl hs (fun data hlater hok => ?_) hsound
                hf hkind data (hok.weaken fun t ht => ⟨schema, rfl, ht⟩)
              obtain ⟨inner, later, hrun, _⟩ :=
                Schema.hydrate_reads hdecl hlater data schema hs hok
              exact ⟨inner, later, hrun⟩
          | .list schema, .arr items =>
              have hs := (hover schema rfl).1
              refine Kind.hydrate_list_reads hdecl hs (fun data hlater hok => ?_) hsound
                hf hkind items (hok.weaken fun t ht => ⟨schema, rfl, ht⟩)
              obtain ⟨inner, later, hrun, _⟩ :=
                Schema.hydrate_reads hdecl hlater data schema hs hok
              exact ⟨inner, later, hrun⟩
termination_by structural kind => kind

end

end DocumentModel
