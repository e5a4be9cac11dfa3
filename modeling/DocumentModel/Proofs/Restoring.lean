/-
Hydration from data that describes a document.

As long as documents of its type and of the types nested in it can be made, hydration succeeds, and
whenever it succeeds, the new document mirrors the data.  Filling a field touches nothing else: the
other fields of the document keep their values, and so does all that was there before.
-/
import DocumentModel.Proofs.Agreement
import DocumentModel.Proofs.Description
import DocumentModel.Proofs.Hydration
import DocumentModel.Proofs.Mirror

namespace DocumentModel

/-- The types of the documents in embedded and list fields, at any depth. -/
def Schema.Nests : Schema → Schema → Prop :=
  Relation.ReflTransGen fun s t => ∃ f ∈ s.fields, f.kind.schema? = some t

/-- The types of the documents that filling a field of a kind could make. -/
def Kind.Needs (kind : Kind) (t : Schema) : Prop :=
  ∃ s, kind.schema? = some s ∧ s.Nests t

namespace Build

variable {α β : Type} {types : List Schema} {needs needs' : Schema → Prop} {h mid : Heap}
  {x : Build α} {f : α → Build β}

/-- An operation succeeds, or could only fail for want of documents of some types, all of which can
be made. -/
def Feasible (types : List Schema) (needs : Schema → Prop) (x : Build α) (h : Heap) : Prop :=
  (∀ t, needs t → t.Constructs types h) ∨ ∃ a later, x h = (.ok a, later)

theorem Feasible.weaken (hneeds : ∀ t, needs' t → needs t) (hx : Feasible types needs x h) :
    Feasible types needs' x h :=
  hx.imp_left fun hall t ht => hall t (hneeds t ht)

theorem Feasible.first (hx : Feasible types needs (x >>= f) h) : Feasible types needs x h := by
  refine hx.imp_right ?_
  rintro ⟨b, later, hrun⟩
  obtain ⟨a, mid, hfirst, _⟩ := bind_eq_ok hrun
  exact ⟨a, mid, hfirst⟩

theorem Feasible.rest (hx : Feasible types needs (x >>= f) h) {a : α}
    (hfirst : x h = (.ok a, mid)) (hgrows : h.Grows mid) : Feasible types needs (f a) mid := by
  refine hx.imp (fun hall t ht => (hall t ht).mono hgrows) ?_
  rintro ⟨b, later, hrun⟩
  rw [bind_apply, hfirst] at hrun
  exact ⟨b, later, hrun⟩

theorem Feasible.instantiate {s : Schema} (hs : Feasible types needs s.instantiate h)
    (hneeds : needs s) (hsound : h.Sound types) : ∃ r, (s.instantiate h).1 = .ok r := by
  rcases hs with hall | ⟨r, later, hrun⟩
  · exact hall s hneeds h (.refl h) hsound
  · exact ⟨r, by rw [hrun]⟩

end Build

/-- A field has another name than the fields that come after it. -/
theorem Field.name_not_mem_of_mem {f : Field} {rest : List Field}
    (hname : f.name ∉ rest.map (·.name)) {g : Field} (hg : g ∈ rest) : g.name ∉ [f.name] := by
  intro heq
  exact hname (List.mem_singleton.mp heq ▸ List.mem_map_of_mem hg)

namespace Heap

/-- All stays as it is, except for some fields of one document. -/
structure OnlyAt (r : DocRef) (names : List String) (h later : Heap) : Prop where
  documents : ∀ {s d}, s ≠ r → h.document? s = some d → later.document? s = some d
  lists : ∀ {l c}, h.list? l = some c → later.list? l = some c
  slots : ∀ {d}, h.document? r = some d → ∃ d', later.document? r = some d' ∧
    d'.schema = d.schema ∧ ∀ name ∉ names, d'.slot? name = d.slot? name

variable {types : List Schema} {n m : Nat} {h later : Heap} {r : DocRef} {d : Document}

theorem OnlyAt.refl (r : DocRef) (names : List String) (h : Heap) : h.OnlyAt r names h :=
  ⟨fun _ hd => hd, fun hl => hl, fun hd => ⟨_, hd, rfl, fun _ _ => rfl⟩⟩

theorem OnlyAt.trans {names names' : List String} {a b c : Heap} (hab : a.OnlyAt r names b)
    (hbc : b.OnlyAt r names' c) : a.OnlyAt r (names ++ names') c where
  documents hs hd := hbc.documents hs (hab.documents hs hd)
  lists hl := hbc.lists (hab.lists hl)
  slots hd := by
    obtain ⟨d', hd', hschema', hslots'⟩ := hab.slots hd
    obtain ⟨d'', hd'', hschema'', hslots''⟩ := hbc.slots hd'
    refine ⟨d'', hd'', hschema''.trans hschema', fun name hname => ?_⟩
    rw [List.mem_append, not_or] at hname
    rw [hslots'' name hname.2, hslots' name hname.1]

theorem OnlyAt.values {names : List String} (honly : h.OnlyAt r names later)
    (hd : h.document? r = some d) : ∃ d', later.document? r = some d' ∧ d'.schema = d.schema ∧
      ∀ name ∉ names, d'.value name = d.value name := by
  obtain ⟨d', hd', hschema, hslots⟩ := honly.slots hd
  refine ⟨d', hd', hschema, fun name hname => ?_⟩
  rw [Document.value, Document.value?, hslots name hname]
  rfl

/-- Making new documents and lists changes no old ones. -/
theorem Keeps.onlyAt (hkeeps : h.Keeps h.documents.length h.lists.length later) (r : DocRef)
    (names : List String) : h.OnlyAt r names later where
  documents _ hd := hkeeps.document (document?_lt hd) hd
  lists hl := hkeeps.list (list?_lt hl) hl
  slots hd := ⟨_, hkeeps.document (document?_lt hd) hd, rfl, fun _ _ => rfl⟩

/-- Putting a slot into a document changes the slot of its field. -/
theorem onlyAt_putSlot (hd : h.document? r = some d) (slot : Slot) :
    h.OnlyAt r [slot.name] (h.putDocument r (d.putSlot slot)) where
  documents hs hother := by rw [document?_putDocument_of_ne h _ (Ne.symm hs), hother]
  lists hl := hl
  slots hsome := by
    obtain rfl := Option.some.inj (hd.symm.trans hsome)
    refine ⟨_, document?_putDocument_self h _ (by rw [hd]; rfl), rfl, fun name hname => ?_⟩
    exact Document.slot?_putSlot_of_ne d slot fun heq => hname (by simp [heq])

/-- A document whose members are mirrored is mirrored. -/
theorem Filled.mirrors {data : Json.Object} (hr : h.Filled m r data) (hn : n ≤ r.index)
    (hd : h.document? r = some d) (hkeys : data.map Prod.fst = d.schema.fieldNames) :
    h.Mirrors m n (.document r) (.obj data) := by
  obtain ⟨d', hd', hfields⟩ := hr
  obtain rfl := Option.some.inj (hd'.symm.trans hd)
  refine .document hn hd hkeys fun f hf j hj => ?_
  obtain ⟨j', hj', hmirrors⟩ := hfields f hf
  obtain rfl := Option.some.inj (hj'.symm.trans hj)
  exact hmirrors

/-- A slot that is put into a document is the slot of its field. -/
theorem holds_putSlot (hd : h.document? r = some d) {name : String}
    (hsome : (d.slot? name).isSome = true) {slot : Slot} (hname : slot.name = name) :
    h.OnlyAt r [name] (h.putDocument r (d.putSlot slot)) ∧
      ∃ d', (h.putDocument r (d.putSlot slot)).document? r = some d' ∧
        d'.slot? name = some slot := by
  subst hname
  exact ⟨onlyAt_putSlot hd slot, _, document?_putDocument_self h _ (by rw [hd]; rfl),
    Document.slot?_putSlot_self d slot hsome⟩

/-- An assignment that makes no list changes the slot of its field, and nothing else. -/
theorem set_apply (hdecl : Declared types) (hsound : h.Sound types) {f : Field}
    (hf : h.HasField r f) {v : Value} {a : Assignment}
    (hassign : ∀ current, h.assign f current v = (a, h)) :
    ∃ later, h.set r f.name v = (.ok (), later) ∧ h.OnlyAt r [f.name] later ∧
      ∃ before d slot, h.document? r = some before ∧ before.slot? f.name = some slot ∧
        later.document? r = some d ∧ d.slot? f.name = some (a.apply slot) := by
  obtain ⟨d, hd, hmem⟩ := hf
  have hnodup := hdecl.fieldNames_nodup (hsound.schema hd)
  obtain ⟨slot, hslot, hfits⟩ := hsound.slot_of_field hdecl hd hmem
  have hset : h.set r f.name v = (.ok (), h.putDocument r (d.putSlot (a.apply slot))) := by
    simp only [set, hd, Schema.field?_of_mem hnodup hmem, hslot, hassign]
  obtain ⟨honly, d', hd', hslot'⟩ := holds_putSlot hd (by rw [hslot]; rfl)
    ((a.name_apply slot).trans hfits.name)
  exact ⟨_, hset, honly, d, d', slot, hd, hslot, hd', hslot'⟩

/-- What a field stores, it then holds. -/
theorem set_store (hdecl : Declared types) (hsound : h.Sound types) {f : Field}
    (hf : h.HasField r f) {v w : Value}
    (hassign : ∀ current, h.assign f current v = (.store w, h)) :
    ∃ later, h.set r f.name v = (.ok (), later) ∧ h.OnlyAt r [f.name] later ∧
      ∃ d, later.document? r = some d ∧ d.value f.name = w := by
  obtain ⟨later, hset, honly, _, d, slot, _, _, hd, hslot⟩ := set_apply hdecl hsound hf hassign
  exact ⟨later, hset, honly, d, hd, Document.value_of_slot? hslot⟩

/-- A list that is put into a field is what the field then holds, and not a default. -/
theorem installList_holds (hdecl : Declared types) (hsound : h.Sound types)
    (hd : h.document? r = some d) {f : Field} (hf : f ∈ d.schema.fields) (own : ListRef) :
    h.OnlyAt r [f.name] (h.installList r f.name own) ∧
      ∃ d', (h.installList r f.name own).document? r = some d' ∧ d'.value f.name = .list own ∧
        ∀ slot, d'.slot? f.name = some slot → slot.shared = false := by
  obtain ⟨slot, hslot, hfits⟩ := hsound.slot_of_field hdecl hd hf
  simp only [installList, hd, hslot]
  have hname : Slot.name { slot with value := .list own, shared := false } = f.name := hfits.name
  obtain ⟨honly, d', hd', hslot'⟩ := holds_putSlot hd (by rw [hslot]; rfl) hname
  refine ⟨honly, d', hd', Document.value_of_slot? hslot', fun found hfound => ?_⟩
  rw [← Option.some.inj (hslot'.symm.trans hfound)]

/-- What a field of the document holds is out of reach of changes to the document. -/
theorem OnlyAt.mirrors {names : List String} (honly : h.OnlyAt r names later) {v : Value}
    {j : Json} (hv : h.Mirrors m (r.index + 1) v j) : later.Mirrors m (r.index + 1) v j :=
  hv.mono (fun _ _ hs hd => honly.documents (fun heq => by simp [heq] at hs) hd)
    fun _ _ _ hl => honly.lists hl

/-- A field now mirrors some JSON, and nothing else has changed. -/
def FieldMirrors (h : Heap) (r : DocRef) (name : String) (j : Json) (later : Heap) : Prop :=
  h.OnlyAt r [name] later ∧ ∃ d, later.document? r = some d ∧
    later.Mirrors h.lists.length (r.index + 1) (d.value name) j

/-- What a plain field accepts is stored as it is read. -/
theorem set_mirrors_plain (hdecl : Declared types) (hsound : h.Sound types) {f : Field}
    (hf : h.HasField r f) {j : Json} (hsettled : j.Settled)
    (hassign : ∀ current, h.assign f current (Value.ofJson j) = (.store (Value.ofJson j), h)) :
    ∃ later, h.set r f.name (Value.ofJson j) = (.ok (), later) ∧
      h.FieldMirrors r f.name j later := by
  obtain ⟨later, hset, honly, d, hd, hvalue⟩ := set_store hdecl hsound hf hassign
  refine ⟨later, hset, honly, d, hd, ?_⟩
  rw [hvalue]
  exact .plain hsettled

end Heap

open Build Heap

variable {types : List Schema}

/-- Hydration makes a new document that mirrors the data. -/
def Schema.Restores (types : List Schema) (s : Schema) (data : Json.Object) (h : Heap) : Prop :=
  ∃ r later, s.hydrate data h = (.ok r, later) ∧
    Changes types h.documents.length h.lists.length h later ∧ h.documents.length ≤ r.index ∧
    later.Filled h.lists.length r data ∧ ∃ d, later.document? r = some d ∧ d.schema = s

/-- A document that is made for an item of a list goes into the list. -/
theorem Schema.hydrateItem_obj (hdecl : Declared types) {schema : Schema} {h mid : Heap}
    {data : Json.Object} {inner : DocRef} (hhydrate : schema.hydrate data h = (.ok inner, mid))
    (hchanges : Changes types h.documents.length h.lists.length h mid) (hsound : h.Sound types)
    (hinner : ∃ d, mid.document? inner = some d ∧ d.schema = schema)
    {own : ListRef} {items : List DocRef} (hl : h.list? own = some ⟨schema, items⟩) :
    ∃ later, schema.hydrateItem own (.obj data) h = (.ok (), later) ∧
      Changes types 0 0 h later ∧ later.list? own = some ⟨schema, items ++ [inner]⟩ ∧
      (∀ s d, mid.document? s = some d → later.document? s = some d) ∧
      ∀ s l, s ≠ own → mid.list? s = some l → later.list? s = some l := by
  have hown : mid.list? own = some ⟨schema, items⟩ := hchanges.keeps.list (list?_lt hl) hl
  obtain ⟨d, hd, hschema⟩ := hinner
  have hisA : mid.documentIsA inner schema = true :=
    documentIsA_iff.mpr ⟨d, hd, hschema ▸ Schema.isA_refl _⟩
  have hpush : mid.push own inner =
      (.ok (), mid.putList own ⟨schema, items ++ [inner]⟩) := by
    simp [push, hown, checkTypes, hisA]
  have hpushed :=
    (hchanges.sound hdecl hsound).push_changes (n := 0) (Nat.zero_le own.index) inner
  rw [hpush] at hpushed
  refine ⟨mid.putList own ⟨schema, items ++ [inner]⟩, ?_,
    (hchanges.weaken (Nat.zero_le _) (Nat.zero_le _)).trans hpushed,
    list?_putList_self mid _ (by rw [hown]; rfl), fun _ _ hd => hd, fun s l hne hl => ?_⟩
  · rw [Schema.hydrateItem, bind_apply, hhydrate]
    exact hpush
  · rw [list?_putList_of_ne mid _ (Ne.symm hne), hl]

/-- Hydrating objects one after the other fills a list with documents that mirror them. -/
theorem Schema.hydrateItems_mirrors (hdecl : Declared types) {schema : Schema}
    (hrestores : ∀ {h : Heap} {data : Json.Object}, h.Sound types →
      Feasible types schema.Nests (schema.hydrate data) h → schema.Describes data →
      schema.Restores types data h)
    {own : ListRef} {n : Nat} {datas : List Json.Object}
    (hkeys : ∀ data ∈ datas, data.map Prod.fst = schema.fieldNames)
    (hdatas : ∀ data ∈ datas, schema.Describes data) {h : Heap} {items : List DocRef}
    (hsound : h.Sound types) (hn : n ≤ h.documents.length)
    (hl : h.list? own = some ⟨schema, items⟩)
    (hok : Feasible types schema.Nests ((datas.map Json.obj).forM (schema.hydrateItem own)) h) :
    ∃ later new, (datas.map Json.obj).forM (schema.hydrateItem own) h = (.ok (), later) ∧
      later.Sound types ∧ later.list? own = some ⟨schema, items ++ new⟩ ∧
      new.length = datas.length ∧
      (∀ s d, h.document? s = some d → later.document? s = some d) ∧
      (∀ s l, s ≠ own → h.list? s = some l → later.list? s = some l) ∧
      ∀ p ∈ new.zip (datas.map .obj), later.Mirrors (own.index + 1) n (.document p.1) p.2 := by
  induction datas generalizing h items with
  | nil =>
      exact ⟨h, [], rfl, hsound, by simpa using hl, rfl, fun _ _ hd => hd, fun _ _ _ hl => hl,
        by simp⟩
  | cons data rest ih =>
      obtain ⟨hkeysFirst, hkeysRest⟩ := List.forall_mem_cons.mp hkeys
      obtain ⟨hdataFirst, hdataRest⟩ := List.forall_mem_cons.mp hdatas
      obtain ⟨inner, mid, hhydrate, hchanges, hinner, hfilled, d, hd, hschema⟩ :=
        hrestores hsound hok.first.first hdataFirst
      have hkeeps := hchanges.keeps
      obtain ⟨next, hone, hfill, hown, hdocument, hlist⟩ :=
        Schema.hydrateItem_obj hdecl hhydrate hchanges hsound ⟨d, hd, hschema⟩ hl
      obtain ⟨later, new, hrun, hfinal, hitems, hlength, hdocuments, hlists, hmirrors⟩ :=
        ih hkeysRest hdataRest (hfill.sound hdecl hsound)
          (Nat.le_trans hn hfill.documents_length_le) hown (hok.rest hone hfill.grows)
      have hlater : ∀ s l, own.index + 1 ≤ s.index → mid.list? s = some l →
          later.list? s = some l := by
        intro s l hs hl
        have hne : s ≠ own := fun heq => by simp [heq] at hs
        exact hlists s l hne (hlist s l hne hl)
      refine ⟨later, inner :: new, ?_, hfinal, by simpa using hitems, by simpa using hlength,
        fun s d hd => hdocuments s d (hdocument s d (hkeeps.document (document?_lt hd) hd)),
        fun s l hne hl => hlists s l hne (hlist s l hne (hkeeps.list (list?_lt hl) hl)), ?_⟩
      · rw [List.map_cons, List.forM, bind_apply, hone]
        exact hrun
      · rw [List.map_cons, List.zip_cons_cons]
        refine List.forall_mem_cons.mpr ⟨?_, hmirrors⟩
        have hfirst := (hfilled.mirrors (Nat.le_trans hn hinner) hd (hschema ▸ hkeysFirst)).weaken
          (list?_lt hl) (Nat.le_refl n)
        exact hfirst.mono (fun s d _ hd => hdocuments s d (hdocument s d hd)) hlater

/-- What is not nested is assigned as it is read. -/
theorem Heap.set_mirrors_of_describes (hdecl : Declared types) {h : Heap} (hsound : h.Sound types)
    {r : DocRef} {f : Field} (hf : h.HasField r f) {j : Json} (hnests : f.kind.nests j = false)
    (hdescribes : f.kind.Describes j) :
    ∃ later, h.set r f.name (Value.ofJson j) = (.ok (), later) ∧
      h.FieldMirrors r f.name j later := by
  cases hkind : f.kind with
  | embedded schema =>
      rw [hkind] at hnests hdescribes
      rcases hdescribes.of_embedded with rfl | ⟨data, rfl, _⟩
      · apply set_mirrors_plain hdecl hsound hf .null
        intro current
        simp [assign, hkind, Value.ofJson]
      · cases hnests
  | list schema =>
      rw [hkind] at hnests hdescribes
      obtain ⟨datas, rfl, _⟩ := hdescribes.of_list
      cases hnests
  | _ =>
      have hplain : f.kind.schema? = none := by rw [hkind]; rfl
      obtain ⟨hsettled, haccepts⟩ := hdescribes.of_plain hplain
      exact set_mirrors_plain hdecl hsound hf hsettled fun current =>
        h.assign_ofJson hplain haccepts current

/-- A document that is made for an embedded field is what the field then holds. -/
theorem Kind.hydrate_embedded_holds (hdecl : Declared types) {schema : Schema} {h mid : Heap}
    {data : Json.Object} {inner : DocRef} (hhydrate : schema.hydrate data h = (.ok inner, mid))
    (hsound : mid.Sound types) (hinner : ∃ d, mid.document? inner = some d ∧ d.schema = schema)
    {r : DocRef} {f : Field} (hf : mid.HasField r f) (hkind : f.kind = .embedded schema) :
    ∃ later, (Kind.embedded schema).hydrate r f.name (.obj data) h = (.ok (), later) ∧
      mid.OnlyAt r [f.name] later ∧
      ∃ d, later.document? r = some d ∧ d.value f.name = .document inner := by
  obtain ⟨d, hd, hschema⟩ := hinner
  have hisA : mid.documentIsA inner schema = true :=
    documentIsA_iff.mpr ⟨d, hd, hschema ▸ Schema.isA_refl _⟩
  obtain ⟨later, hset, honly⟩ := set_store hdecl hsound hf (v := .document inner)
    (w := .document inner) (by simp [assign, hkind, hisA])
  refine ⟨later, ?_, honly⟩
  rw [Kind.hydrate_embedded_obj, bind_apply, hhydrate]
  exact hset

/-- An object in an embedded field becomes a document that mirrors it. -/
theorem Kind.hydrate_embedded_mirrors (hdecl : Declared types) {schema : Schema} {h : Heap}
    (hsound : h.Sound types) {r : DocRef} {f : Field} (hf : h.HasField r f)
    (hkind : f.kind = .embedded schema) {data : Json.Object}
    (hrestores : schema.Restores types data h)
    (hkeys : data.map Prod.fst = schema.fieldNames) :
    ∃ later, (Kind.embedded schema).hydrate r f.name (.obj data) h = (.ok (), later) ∧
      h.FieldMirrors r f.name (.obj data) later := by
  obtain ⟨d, hd, _⟩ := id hf
  obtain ⟨inner, mid, hhydrate, hchanges, hinner, hfilled, d', hd', hschema⟩ := hrestores
  obtain ⟨later, hrun, honly, d'', hd'', hvalue⟩ := Kind.hydrate_embedded_holds hdecl hhydrate
    (hchanges.sound hdecl hsound) ⟨d', hd', hschema⟩ (hf.mono hchanges.grows) hkind
  refine ⟨later, hrun, (hchanges.keeps.onlyAt r []).trans honly, d'', hd'', ?_⟩
  have hmirrors := hfilled.mirrors (n := r.index + 1) (Nat.le_trans (document?_lt hd) hinner) hd'
    (hschema ▸ hkeys)
  rw [hvalue]
  exact honly.mirrors hmirrors

/-- A new list that is filled for a list field is what the field then holds. -/
theorem Kind.hydrate_list_holds (hdecl : Declared types) {schema : Schema} {h mid : Heap}
    {own : ListRef} (hfresh : (h.addList ⟨schema, []⟩).1 = own) {items : List Json}
    (hfill : items.forM (schema.hydrateItem own) (h.addList ⟨schema, []⟩).2 = (.ok (), mid))
    (hsound : mid.Sound types)
    (hdocuments : ∀ s d, h.document? s = some d → mid.document? s = some d)
    (hlists : ∀ s l, s ≠ own → (h.addList ⟨schema, []⟩).2.list? s = some l →
      mid.list? s = some l)
    {r : DocRef} {f : Field} (hf : h.HasField r f) :
    ∃ later, (Kind.list schema).hydrate r f.name (.arr items) h = (.ok (), later) ∧
      h.OnlyAt r [f.name] later ∧ mid.OnlyAt r [f.name] later ∧
      ∃ d, later.document? r = some d ∧ d.value f.name = .list own ∧
        ∀ slot, d.slot? f.name = some slot → slot.shared = false := by
  obtain ⟨d, hd, hmem⟩ := hf
  obtain ⟨honly, hholds⟩ := installList_holds hdecl hsound (hdocuments r d hd) hmem own
  have hindex : own.index = h.lists.length := by
    rw [← hfresh]
    rfl
  have hbefore : h.OnlyAt r [] mid := by
    refine ⟨fun _ hd => hdocuments _ _ hd, fun {l c} hl => ?_,
      fun hd => ⟨_, hdocuments _ _ hd, rfl, fun _ _ => rfl⟩⟩
    have hne : l ≠ own := fun heq => by simpa [heq, hindex] using list?_lt hl
    exact hlists l c hne (list?_addList_old hl)
  refine ⟨_, ?_, hbefore.trans honly, honly, hholds⟩
  rw [Kind.hydrate_list_arr, bind_apply]
  simp only [bind_apply, hfresh, hfill]

/-- A sequence of objects in a list field becomes a list of documents that mirror them. -/
theorem Kind.hydrate_list_mirrors (hdecl : Declared types) {schema : Schema} (hs : schema ∈ types)
    {h : Heap} (hsound : h.Sound types) {r : DocRef} {f : Field} (hf : h.HasField r f)
    {datas : List Json.Object}
    (hrestores : ∀ {later : Heap} {data : Json.Object}, later.Sound types →
      Feasible types schema.Nests (schema.hydrate data) later → schema.Describes data →
      schema.Restores types data later)
    (hkeys : ∀ data ∈ datas, data.map Prod.fst = schema.fieldNames)
    (hdatas : ∀ data ∈ datas, schema.Describes data)
    (hok : Feasible types schema.Nests
      ((Kind.list schema).hydrate r f.name (.arr (datas.map .obj))) h) :
    ∃ later, (Kind.list schema).hydrate r f.name (.arr (datas.map .obj)) h = (.ok (), later) ∧
      h.FieldMirrors r f.name (.arr (datas.map .obj)) later := by
  obtain ⟨d, hd, _⟩ := id hf
  have hnew : Changes types h.documents.length h.lists.length h
      (h.addList ⟨schema, []⟩).2 := .single (.newList hs (by simp))
  have hown := list?_addList_self h ⟨schema, []⟩
  have hindex : (h.addList ⟨schema, []⟩).1.index = h.lists.length := rfl
  rw [Kind.hydrate_list_arr] at hok
  have hitemsOk : Feasible types schema.Nests ((datas.map Json.obj).forM
      (schema.hydrateItem (h.addList ⟨schema, []⟩).1)) (h.addList ⟨schema, []⟩).2 :=
    (hok.rest rfl hnew.grows).first
  generalize hfresh : (h.addList ⟨schema, []⟩).1 = own at hown hindex hitemsOk
  obtain ⟨mid, new, hfill, hsound', hitems, hlength, hdocuments, hlists, hmirrors⟩ :=
    Schema.hydrateItems_mirrors (n := r.index + 1) hdecl hrestores hkeys hdatas
      (hnew.sound hdecl hsound) (document?_lt hd) hown hitemsOk
  obtain ⟨later, hrun, hbefore, honly, d', hd', hvalue, _⟩ := Kind.hydrate_list_holds hdecl
    hfresh hfill hsound' (fun s d hd => hdocuments s d hd) hlists hf
  refine ⟨later, hrun, hbefore, d', hd', ?_⟩
  rw [hvalue]
  refine .list (Nat.le_of_eq hindex.symm) (honly.lists hitems) (by simpa using hlength) ?_
  intro p hp
  have hlists : h.lists.length ≤ own.index + 1 := by omega
  exact honly.mirrors ((hmirrors p hp).weaken hlists (Nat.le_refl _))

mutual

/-- Data that describes a document of a type is restored. -/
theorem Schema.hydrate_restores (hdecl : Declared types) {h : Heap} (hsound : h.Sound types)
    {data : Json.Object} : (s : Schema) → s ∈ types →
    Feasible types s.Nests (s.hydrate data) h → s.Describes data → s.Restores types data h
  | ⟨id, name, role, parent?, fields⟩, hs, hok, hdescribes => by
      obtain ⟨hall, hfields⟩ := hdescribes
      have hready := hsound.ready
      rw [Schema.hydrate] at hok
      obtain ⟨r, hr⟩ := hok.first.instantiate .refl hsound
      obtain ⟨hchanges, hpost⟩ := Schema.instantiate_runs hdecl hready _ hs
      obtain ⟨hnew, d, hd, hschema⟩ := hpost r hr
      have hmake : Schema.instantiate ⟨id, name, role, parent?, fields⟩ h =
          (.ok r, (Schema.instantiate ⟨id, name, role, parent?, fields⟩ h).2) := Prod.ext hr rfl
      generalize (Schema.instantiate ⟨id, name, role, parent?, fields⟩ h).2 = mid at *
      have hokFields := (hok.rest hmake hchanges.grows).first
      obtain ⟨later, hrun, honly, hmirrors⟩ := Field.hydrateAll_mirrors hdecl
        (hchanges.sound hdecl hsound) fields (hdecl.fieldNames_nodup hs)
        (fun f hf => hdecl.field_over hs hf) (fun f hf => ⟨d, hd, by rw [hschema]; exact hf⟩)
        (hokFields.weaken fun t ⟨f, hf, s, hkind, ht⟩ => .head ⟨f, hf, hkind⟩ ht)
        fun f hf => (hall f hf).imp fun j hj => ⟨hj, hfields f hf j hj⟩
      have hhydrate : Schema.hydrate ⟨id, name, role, parent?, fields⟩ data h = (.ok r, later) := by
        rw [Schema.hydrate, bind_apply, hmake]
        simp only [bind_apply, hrun, pure_apply]
      obtain ⟨d', hd', hschema', _⟩ := honly.values hd
      have hruns := (Schema.hydrate_runs hdecl hready data _ hs).1
      rw [hhydrate] at hruns
      refine ⟨r, later, hhydrate, hruns, hnew, ⟨d', hd', fun f hf => ?_⟩, d', hd',
        hschema'.trans hschema⟩
      rw [hschema', hschema] at hf
      obtain ⟨j, hj, d'', hd'', hmirror⟩ := hmirrors f hf
      obtain rfl := Option.some.inj (hd''.symm.trans hd')
      exact ⟨j, hj, hmirror.weaken hchanges.lists_length_le (Nat.le_refl _)⟩
termination_by structural s => s

/-- Filling the fields of a document one after the other makes all of them mirror their members. -/
theorem Field.hydrateAll_mirrors (hdecl : Declared types) {h : Heap} (hsound : h.Sound types)
    {r : DocRef} {data : Json.Object} : (fields : List Field) → (fields.map (·.name)).Nodup →
    (∀ f ∈ fields, f.Over types) → (∀ f ∈ fields, h.HasField r f) →
    Feasible types (fun t => ∃ f ∈ fields, f.kind.Needs t) (Field.hydrateAll r fields data) h →
    (∀ f ∈ fields, ∃ j, data.get? f.name = some j ∧ f.kind.Describes j) →
    ∃ later, Field.hydrateAll r fields data h = (.ok (), later) ∧
      h.OnlyAt r (fields.map (·.name)) later ∧
      ∀ f ∈ fields, ∃ j, data.get? f.name = some j ∧ ∃ d, later.document? r = some d ∧
        later.Mirrors h.lists.length (r.index + 1) (d.value f.name) j
  | [], _, _, _, _, _ => ⟨h, rfl, .refl r [] h, by simp⟩
  | f :: rest, hnodup, hover, hfields, hok, hdata => by
      rw [Field.hydrateAll] at hok
      obtain ⟨hname, hnodupRest⟩ := List.nodup_cons.mp hnodup
      obtain ⟨j, hj, hdescribes⟩ := hdata f List.mem_cons_self
      obtain ⟨mid, hfirst, honly, d, hd, hmirrors⟩ := Field.hydrate_mirrors hdecl hsound f
        (hover f List.mem_cons_self) (hfields f List.mem_cons_self)
        (hok.first.weaken fun t ht => ⟨f, List.mem_cons_self, ht⟩) hj hdescribes
      have hchanges := (Field.hydrate_runs hdecl hsound.ready_zero (Nat.zero_le r.index) data f
        (hover f List.mem_cons_self) (hfields f List.mem_cons_self)).1
      rw [hfirst] at hchanges
      have hmem : ∀ {g}, g ∈ rest → g ∈ f :: rest := List.mem_cons_of_mem f
      obtain ⟨later, hrest, honlyRest, hmirrorsRest⟩ := Field.hydrateAll_mirrors hdecl
        (hchanges.sound hdecl hsound) rest hnodupRest (fun g hg => hover g (hmem hg))
        (fun g hg => (hfields g (hmem hg)).mono hchanges.grows)
        ((hok.rest hfirst hchanges.grows).weaken fun t ⟨g, hg, ht⟩ => ⟨g, hmem hg, ht⟩)
        fun g hg => hdata g (hmem hg)
      have hrun : Field.hydrateAll r (f :: rest) data h = (.ok (), later) := by
        rw [Field.hydrateAll, bind_apply, hfirst]
        exact hrest
      refine ⟨later, hrun, honly.trans honlyRest, List.forall_mem_cons.mpr ⟨⟨j, hj, ?_⟩, ?_⟩⟩
      · -- the first field is none of the others
        obtain ⟨d', hd', _, hvalues⟩ := honlyRest.values hd
        refine ⟨d', hd', ?_⟩
        rw [hvalues f.name hname]
        exact honlyRest.mirrors hmirrors
      · intro g hg
        obtain ⟨j, hj, d, hd, hmirror⟩ := hmirrorsRest g hg
        exact ⟨j, hj, d, hd, hmirror.weaken hchanges.lists_length_le (Nat.le_refl _)⟩
termination_by structural fields => fields

theorem Field.hydrate_mirrors (hdecl : Declared types) {h : Heap} (hsound : h.Sound types)
    {r : DocRef} {data : Json.Object} {j : Json} : (f : Field) → f.Over types → h.HasField r f →
    Feasible types f.kind.Needs (f.hydrate r data) h →
    data.get? f.name = some j → f.kind.Describes j →
    ∃ later, f.hydrate r data h = (.ok (), later) ∧ h.FieldMirrors r f.name j later
  | ⟨name, required, default?, kind⟩, hover, hf, hok, hj, hdescribes => by
      have hfill : Field.hydrate r ⟨name, required, default?, kind⟩ data =
          kind.hydrate r name j := by
        rw [Field.hydrate.eq_def]
        simp only [hj]
      rw [hfill] at hok ⊢
      exact Kind.hydrate_mirrors hdecl hsound
        (f := ⟨name, required, default?, kind⟩) kind hover.kind hf rfl hok hdescribes
termination_by structural f => f

theorem Kind.hydrate_mirrors (hdecl : Declared types) {h : Heap} (hsound : h.Sound types)
    {r : DocRef} {f : Field} {j : Json} : (kind : Kind) →
    (∀ s, kind.schema? = some s → s ∈ types ∧ s.isEmbedded = true) → h.HasField r f →
    f.kind = kind → Feasible types kind.Needs (kind.hydrate r f.name j) h →
    kind.Describes j →
    ∃ later, kind.hydrate r f.name j h = (.ok (), later) ∧ h.FieldMirrors r f.name j later
  | kind, hover, hf, hkind, hok, hdescribes => by
      cases hnests : kind.nests j with
      | false =>
          rw [Kind.hydrate_of_not_nests r f.name hnests]
          exact set_mirrors_of_describes hdecl hsound hf (hkind ▸ hnests) (hkind ▸ hdescribes)
      | true =>
          match kind, j with
          | .embedded schema, .obj data =>
              rcases hdescribes.of_embedded with hnull | ⟨data, heq, hkeys, hdata⟩
              · cases hnull
              · obtain rfl := Json.obj.inj heq
                rw [Kind.hydrate_embedded_obj] at hok
                have hrestores := Schema.hydrate_restores hdecl hsound schema (hover schema rfl).1
                  (hok.first.weaken fun t ht => ⟨schema, rfl, ht⟩) hdata
                exact Kind.hydrate_embedded_mirrors hdecl hsound hf hkind hrestores hkeys
          | .list schema, .arr items =>
              obtain ⟨datas, heq, hkeys, hdatas⟩ := hdescribes.of_list
              obtain rfl := Json.arr.inj heq
              have hs := (hover schema rfl).1
              exact Kind.hydrate_list_mirrors hdecl hs hsound hf
                (fun hlater hok hdata => Schema.hydrate_restores hdecl hlater schema hs hok hdata)
                hkeys hdatas (hok.weaken fun t ht => ⟨schema, rfl, ht⟩)
termination_by structural kind => kind

end

end DocumentModel
